import LibCxlmi.Transport.Endpoint

/-!
# The mock transport (mock.c)

A mock endpoint answers a command with the oldest response configured for its
opcode and records the command for inspection. Nothing leaves the host.
-/

namespace LibCxlmi.Transport
open LibCxlmi.Word LibCxlmi.Cci

def retUnsupported : ℕ := 3

/-- The oldest response for the opcode, and the queue without it. -/
def mockFindResponse (set cmd : Byte) : List MockResponse → Option (MockResponse × List MockResponse)
  | [] => none
  | r :: rs =>
      if r.commandSet = set ∧ r.command = cmd then some (r, rs)
      else (mockFindResponse set cmd rs).map fun (x, ys) => (x, r :: ys)

/- The request is recorded by its own `pl_length`, 20 bits of it, and not by
the size the caller passes. -/
def mockRecord (env : Env) (k : MockTransport) (req : Bytes) : MockTransport :=
  let sz := plLength req
  { k with
    commandsSent := u32 (k.commandsSent + 1)
    lastCommandSet := commandSet req
    lastCommand := command req
    lastPayload := if 0 < sz ∧ env.alloc .mockPayload sz = true then (payload req).take sz else [] }

def mockRsp (o : ByteOrder) (cat tg : Byte) (req : Bytes) (code : ℕ) (pl : Bytes) (rspSz : ℕ) : Bytes :=
  [cat, tg, 0, command req, commandSet req] ++ leBytes 3 (pl.length % 2 ^ 20) ++
    storeWord o 2 code ++ zeros 2 ++ fillBuf (rspSz - 12) pl

def sendMockCmd (o : ByteOrder) (env : Env) (k : MockTransport) (req : Bytes) (rspSz : ℕ) :
    Outcome MockTransport :=
  let k := mockRecord env k req
  match mockFindResponse (commandSet req) (command req) k.responses with
  | none => ⟨retUnsupported, mockRsp o 0 0 req retUnsupported [] rspSz, [], none, k⟩
  | some (resp, rest) =>
      ⟨resp.returnCode.val,
        mockRsp o categoryRsp (tag req) req resp.returnCode.val (resp.payload.take (rspSz - 12)) rspSz, [], none,
        { k with responses := rest, responsesReturned := u32 (k.responsesReturned + 1) }⟩

def mockCode (k : MockTransport) (set cmd : Byte) : ℕ :=
  match mockFindResponse set cmd k.responses with
  | none => retUnsupported
  | some (resp, _) => resp.returnCode.val

theorem sendMockCmd_rc (o : ByteOrder) (env : Env) (k : MockTransport) (req : Bytes) (rspSz : ℕ) :
    (sendMockCmd o env k req rspSz).rc = mockCode k (commandSet req) (command req) := by
  have hq : (mockRecord env k req).responses = k.responses := rfl
  unfold sendMockCmd mockCode
  simp only [hq]
  cases mockFindResponse (commandSet req) (command req) k.responses with
  | none => rfl
  | some p => rfl

theorem sendMockCmd_sent (o : ByteOrder) (env : Env) (k : MockTransport) (req : Bytes) (rspSz : ℕ) :
    (sendMockCmd o env k req rspSz).sent = [] := by
  unfold sendMockCmd
  simp only
  cases mockFindResponse (commandSet req) (command req) (mockRecord env k req).responses with
  | none => rfl
  | some p => rfl

theorem mockRsp_length (o : ByteOrder) (cat tg : Byte) (req : Bytes) (code : ℕ) (pl : Bytes) (rspSz : ℕ)
    (hpl : pl.length ≤ rspSz - 12) (hsz : 12 ≤ rspSz) : (mockRsp o cat tg req code pl rspSz).length = rspSz := by
  simp only [mockRsp, List.length_append, List.length_cons, List.length_nil, leBytes_length, storeWord_length,
    zeros_length, fillBuf_length _ pl hpl]
  omega

theorem sendMockCmd_rsp_length (o : ByteOrder) (env : Env) (k : MockTransport) (req : Bytes) (rspSz : ℕ)
    (hsz : 12 ≤ rspSz) : (sendMockCmd o env k req rspSz).rsp.length = rspSz := by
  unfold sendMockCmd
  simp only
  cases mockFindResponse (commandSet req) (command req) (mockRecord env k req).responses with
  | none => exact mockRsp_length o _ _ req _ [] rspSz (Nat.zero_le _) hsz
  | some p =>
    refine mockRsp_length o _ _ req _ _ rspSz ?_ hsz
    rw [List.length_take]
    exact Nat.min_le_left _ _

theorem sendMockCmd_st (o : ByteOrder) (env : Env) (k : MockTransport) (req : Bytes) (rspSz : ℕ) :
    (sendMockCmd o env k req rspSz).st.lastPayload = (mockRecord env k req).lastPayload ∧
      (sendMockCmd o env k req rspSz).st.commandsSent = u32 (k.commandsSent + 1) := by
  unfold sendMockCmd
  simp only
  cases mockFindResponse (commandSet req) (command req) (mockRecord env k req).responses with
  | none => exact ⟨rfl, rfl⟩
  | some p => exact ⟨rfl, rfl⟩

theorem mockRecord_lastPayload (o : ByteOrder) (env : Env) (k : MockTransport) (tg cmd set : Byte)
    (pl : Bytes) (ha : ∀ n, env.alloc .mockPayload n = true) :
    (mockRecord env k (cciHeader o tg cmd set pl.length ++ pl)).lastPayload =
      pl.take (pl.length % 2 ^ 20) := by
  simp only [mockRecord, plLength_cciHeader, payload_cciHeader, ha, and_true]
  split_ifs with h0
  · rfl
  · have hz : pl.length % 2 ^ 20 = 0 := by omega
    rw [hz]
    rfl

end LibCxlmi.Transport
