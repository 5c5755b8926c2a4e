import LibCxlmi.Run.KeyedQueue
import LibCxlmi.Run.Machine
import LibCxlmi.Run.Registry

/-!
# The mock as a family of queues (mock.c:90-293)

The calls a test makes on a mock endpoint: `cxlmi_mock_set_response`,
`cxlmi_mock_clear_responses`, the two queries, and commands. All responses are
on one list. `QueueSpec` is what the list stands for: for each opcode, the
responses configured since the last clear and how many of them have been used.
-/

namespace LibCxlmi.Run
open LibCxlmi.Word LibCxlmi.Cci LibCxlmi.Transport

/-- The guard of the functions in mock.c; `none` is MCTP data taken for that of
a mock. -/
def onMock {α : Type} (ep : Endpoint) (bad : α) (f : MockTransport → α × MockTransport) : Option (Endpoint × α) :=
  match ep.transportData with
  | some (.mock k) => some ({ ep with transportData := some (.mock (f k).2) }, (f k).1)
  | some (.mctp _) => if isMockEndpoint ep then none else some (ep, bad)
  | none => some (ep, bad)

/- A null payload and one of no bytes are the same. -/
def mockSetResponse (respAlloc payloadAlloc : Bool) (ep : Endpoint) (set cmd : Byte) (code : U 16)
    (payload : Option Bytes) : Option (Endpoint × ℤ) :=
  onMock ep (-1) fun k =>
    if respAlloc = false ∨ (payload.getD [] ≠ [] ∧ payloadAlloc = false) then (-1, k)
    else (0, { k with responses := k.responses ++ [⟨set, cmd, code, payload.getD []⟩] })

def mockClearResponses (ep : Endpoint) : Option (Endpoint × Unit) :=
  onMock ep () fun k => ((), { k with responses := [] })

/-- `commands_sent` and `responses_returned`; `none` is a return of -1. -/
def mockGetStats (ep : Endpoint) : Option (Endpoint × Option (ℕ × ℕ)) :=
  onMock ep none fun k => (some (k.commandsSent, k.responsesReturned), k)

structure LastCommand where
  commandSet : Byte
  command : Byte
  payload : Bytes
  payloadSize : ℕ
  deriving DecidableEq, Repr

/-- With room for `bufSz` bytes of payload. -/
def mockGetLastCommand (ep : Endpoint) (bufSz : ℕ) : Option (Endpoint × Option LastCommand) :=
  onMock ep none fun k =>
    (some ⟨k.lastCommandSet, k.lastCommand, k.lastPayload.take bufSz, k.lastPayload.length⟩, k)

/-! ### Runs of calls -/

structure MockSend where
  env : Env
  ti : Option TunnelInfo
  set : Byte
  cmd : Byte
  pl : Bytes
  rspSz : ℕ
  rspMin : ℕ

inductive MockCall where
  | setResponse (respAlloc payloadAlloc : Bool) (set cmd : Byte) (code : U 16) (payload : Option Bytes)
  | clearResponses
  | send (c : MockSend)

/-- What a call returns, and for a command the payload of its response buffer. -/
structure MockResult where
  rc : ℤ
  buf : Bytes
  deriving DecidableEq, Repr

def mockStep (o : ByteOrder) (ep : Endpoint) : MockCall → Option (Endpoint × MockResult)
  | .setResponse ra pa set cmd code pl =>
      (mockSetResponse ra pa ep set cmd code pl).map fun (ep, rc) => (ep, ⟨rc, []⟩)
  | .clearResponses => (mockClearResponses ep).map fun (ep, _) => (ep, ⟨0, []⟩)
  | .send c =>
      let armed := armCciRequest o ep c.set c.cmd c.pl
      (sendCmdCci o c.env armed.2 c.ti armed.1 c.rspSz c.rspMin).map fun r => (r.st, ⟨r.rc, payload r.rsp⟩)

def mockOpened : Endpoint := ⟨some (.mock freshMock), -1, true⟩

/-! ### The queues -/

abbrev Opcode := Byte × Byte

def opcode (r : MockResponse) : Opcode := (r.commandSet, r.command)

/-- `configured` and `used` count from the last clear. -/
structure QueueSpec where
  configured : Opcode → List MockResponse
  used : Opcode → ℕ
  sends : ℕ
  matched : ℕ
  last : Option (Opcode × Bytes)

def QueueSpec.empty : QueueSpec := ⟨fun _ => [], fun _ => 0, 0, 0, none⟩

def QueueSpec.next (q : QueueSpec) (op : Opcode) : Option MockResponse := (q.configured op)[q.used op]?

def tooDeep (ti : Option TunnelInfo) : Bool :=
  match ti with
  | none => false
  | some t => decide (2 < t.level)

def delivered (rc : ℤ) (pl : Bytes) (rspSz : ℕ) : MockResult := ⟨rc, fillBuf (rspSz - 12) (pl.take (rspSz - 12))⟩

def QueueSpec.send (q : QueueSpec) (c : MockSend) : QueueSpec × MockResult :=
  let op := (c.set, c.cmd)
  let q' := { q with sends := q.sends + 1, last := some (op, c.pl) }
  match q.next op with
  | none => (q', delivered retUnsupported [] c.rspSz)
  | some r =>
      ({ q' with used := Function.update q.used op (q.used op + 1), matched := q.matched + 1 },
        delivered r.returnCode.val r.payload c.rspSz)

def QueueSpec.step (q : QueueSpec) : MockCall → QueueSpec × MockResult
  | .setResponse _ _ set cmd code pl =>
      ({ q with
          configured := Function.update q.configured (set, cmd)
            (q.configured (set, cmd) ++ [⟨set, cmd, code, pl.getD []⟩]) }, ⟨0, []⟩)
  | .clearResponses => ({ q with configured := fun _ => [], used := fun _ => 0 }, ⟨0, []⟩)
  -- a command for a tunnel that is too deep is refused before it reaches the mock
  | .send c => if tooDeep c.ti then (q, delivered (-1) [] c.rspSz) else q.send c

/-- Allocations succeed, and a payload fits its length field. -/
def MockCall.Served : MockCall → Prop
  | .setResponse ra pa _ _ _ _ => ra = true ∧ pa = true
  | .clearResponses => True
  | .send c => c.pl.length < 2 ^ 20 ∧ 12 ≤ c.rspSz ∧ ∀ n, c.env.alloc .mockPayload n = true

/-! ### Refinement -/

/-- What a mock holds for an opcode is what is left of the responses configured
for it. The counters are 32 bits wide. -/
structure MockRefines (k : MockTransport) (q : QueueSpec) : Prop where
  queue : ∀ op, channel opcode op k.responses = (q.configured op).drop (q.used op)
  used : ∀ op, q.used op ≤ (q.configured op).length
  sent : k.commandsSent = u32 q.sends
  returned : k.responsesReturned = u32 q.matched
  last : ((k.lastCommandSet, k.lastCommand), k.lastPayload) = q.last.getD ((0, 0), [])

theorem mockFindResponse_eq (set cmd : Byte) (rs : List MockResponse) :
    mockFindResponse set cmd rs = takeFirst opcode (set, cmd) rs := by
  induction rs with
  | nil => rfl
  | cons r rs ih =>
    rw [mockFindResponse, takeFirst, ih]
    simp only [opcode, Prod.mk.injEq]

theorem freshMock_refines : MockRefines freshMock .empty :=
  ⟨fun _ => rfl, fun _ => le_refl 0, rfl, rfl, rfl⟩

variable {k : MockTransport} {q : QueueSpec}

theorem MockRefines.configure (h : MockRefines k q) (r : MockResponse) :
    MockRefines { k with responses := k.responses ++ [r] }
      { q with configured := Function.update q.configured (opcode r) (q.configured (opcode r) ++ [r]) } := by
  refine ⟨?_, ?_, h.sent, h.returned, h.last⟩
  · intro op
    dsimp only
    by_cases hop : op = opcode r
    · subst hop
      rw [channel_add_self, h.queue, Function.update_self, List.drop_append_of_le_length (h.used _)]
    · rw [channel_add_ne opcode op k.responses r (Ne.symm hop), Function.update_of_ne hop]
      exact h.queue op
  · intro op
    dsimp only
    by_cases hop : op = opcode r
    · subst hop
      rw [Function.update_self, List.length_append]
      exact Nat.le_add_right_of_le (h.used _)
    · rw [Function.update_of_ne hop]
      exact h.used op

theorem MockRefines.clear (h : MockRefines k q) :
    MockRefines { k with responses := [] } { q with configured := fun _ => [], used := fun _ => 0 } :=
  ⟨fun _ => rfl, fun _ => le_refl 0, h.sent, h.returned, h.last⟩

theorem u32_succ (n : ℕ) : u32 (u32 n + 1) = u32 (n + 1) := by
  unfold u32
  omega

/- A command is counted and remembered before its response is looked for. -/
theorem MockRefines.record (h : MockRefines k q) (o : ByteOrder) (env : Env) (tg cmd set : Byte) (pl : Bytes)
    (hpl : pl.length < 2 ^ 20) (ha : ∀ n, env.alloc .mockPayload n = true) :
    MockRefines (mockRecord env k (cciHeader o tg cmd set pl.length ++ pl))
      { q with sends := q.sends + 1, last := some ((set, cmd), pl) } := by
  refine ⟨h.queue, h.used, ?_, h.returned, ?_⟩
  · show u32 (k.commandsSent + 1) = u32 (q.sends + 1)
    rw [h.sent, u32_succ]
  · have hlast := mockRecord_lastPayload o env k tg cmd set pl ha
    rw [Nat.mod_eq_of_lt hpl, List.take_length] at hlast
    rw [hlast]
    rfl

theorem MockRefines.next_none (h : MockRefines k q) (set cmd : Byte)
    (hf : mockFindResponse set cmd k.responses = none) : q.next (set, cmd) = none := by
  rw [mockFindResponse_eq] at hf
  have hempty := takeFirst_none opcode (set, cmd) k.responses hf
  rw [h.queue] at hempty
  exact List.getElem?_eq_none (List.drop_eq_nil_iff.mp hempty)

theorem MockRefines.next_some (h : MockRefines k q) (set cmd : Byte) (r : MockResponse) (rs : List MockResponse)
    (hf : mockFindResponse set cmd k.responses = some (r, rs)) :
    q.next (set, cmd) = some r ∧
      MockRefines { k with responses := rs, responsesReturned := u32 (k.responsesReturned + 1) }
        { q with
          used := Function.update q.used (set, cmd) (q.used (set, cmd) + 1)
          matched := q.matched + 1 } := by
  rw [mockFindResponse_eq] at hf
  obtain ⟨hown, hother⟩ := takeFirst_some opcode (set, cmd) k.responses r rs hf
  rw [h.queue] at hown
  have hnext : q.next (set, cmd) = some r := by
    rw [QueueSpec.next, ← List.head?_drop, hown]
    rfl
  have hlt : q.used (set, cmd) < (q.configured (set, cmd)).length := (List.getElem?_eq_some_iff.mp hnext).1
  refine ⟨hnext, ?_, ?_, h.sent, ?_, h.last⟩
  · intro op
    dsimp only
    by_cases hop : op = (set, cmd)
    · subst hop
      rw [Function.update_self, ← List.tail_drop, hown]
      rfl
    · rw [Function.update_of_ne hop]
      exact (hother op hop).trans (h.queue op)
  · intro op
    dsimp only
    by_cases hop : op = (set, cmd)
    · subst hop
      rw [Function.update_self]
      exact hlt
    · rw [Function.update_of_ne hop]
      exact h.used op
  · show u32 (k.responsesReturned + 1) = u32 (q.matched + 1)
    rw [h.returned, u32_succ]

theorem payload_mockRsp (o : ByteOrder) (cat tg : Byte) (req : Bytes) (code : ℕ) (pl : Bytes) (rspSz : ℕ) :
    payload (mockRsp o cat tg req code pl rspSz) = fillBuf (rspSz - 12) pl := by
  apply List.drop_left'
  simp only [List.length_append, List.length_cons, List.length_nil, leBytes_length, storeWord_length, zeros_length]

/-- The endpoint is a mock that refines the queues. -/
def Refines (ep : Endpoint) (q : QueueSpec) : Prop := ∃ k, ep = ⟨some (.mock k), -1, true⟩ ∧ MockRefines k q

theorem mock_send_refines (o : ByteOrder) (c : MockSend) (h : MockRefines k q) (hpl : c.pl.length < 2 ^ 20)
    (ha : ∀ n, c.env.alloc .mockPayload n = true) (req : Bytes)
    (hreq : req = cciHeader o 0 c.cmd c.set c.pl.length ++ c.pl) :
    MockResult.mk (sendMockCmd o c.env k req c.rspSz).rc (payload (sendMockCmd o c.env k req c.rspSz).rsp) =
        (q.send c).2 ∧
      MockRefines (sendMockCmd o c.env k req c.rspSz).st (q.send c).1 := by
  have hset : commandSet req = c.set := hreq ▸ rfl
  have hcmd : command req = c.cmd := hreq ▸ rfl
  have hrec : MockRefines (mockRecord c.env k req)
      { q with sends := q.sends + 1, last := some ((c.set, c.cmd), c.pl) } :=
    hreq ▸ h.record o c.env 0 c.cmd c.set c.pl hpl ha
  have hresp : (mockRecord c.env k req).responses = k.responses := rfl
  simp only [sendMockCmd, QueueSpec.send, hset, hcmd, hresp]
  cases hf : mockFindResponse c.set c.cmd k.responses with
  | none =>
    rw [h.next_none c.set c.cmd hf]
    refine ⟨?_, hrec⟩
    simp only [payload_mockRsp, delivered, List.take_nil]
  | some p =>
    obtain ⟨r, rs⟩ := p
    obtain ⟨hnext, hst⟩ := hrec.next_some c.set c.cmd r rs hf
    have hnext' : q.next (c.set, c.cmd) = some r := hnext
    rw [hnext']
    refine ⟨?_, hst⟩
    simp only [payload_mockRsp, delivered]

theorem mock_refused (k : MockTransport) (ti : Option TunnelInfo) (req : Bytes) :
    refused ⟨some (.mock k), -1, true⟩ ti req = tooDeep ti := by
  unfold refused tooDeep
  cases ti with
  | none => rw [Bool.not_true, Bool.and_false, Bool.false_or]
  | some t => rw [Bool.not_true, Bool.and_false, Bool.false_or]

theorem mockStep_refines (o : ByteOrder) (ep : Endpoint) (q : QueueSpec) (c : MockCall) (h : Refines ep q)
    (hc : c.Served) : ∃ ep', mockStep o ep c = some (ep', (q.step c).2) ∧ Refines ep' (q.step c).1 := by
  obtain ⟨k, rfl, hk⟩ := h
  cases c with
  | setResponse ra pa set cmd code pl =>
    obtain ⟨rfl, rfl⟩ := hc
    refine ⟨_, ?_, _, rfl, hk.configure ⟨set, cmd, code, pl.getD []⟩⟩
    simp only [mockStep, mockSetResponse, onMock, Bool.true_eq_false, and_false, or_self, if_false]
    rfl
  | clearResponses => exact ⟨_, rfl, _, rfl, hk.clear⟩
  | send c =>
    obtain ⟨hpl, hsz, ha⟩ := hc
    have harm : armCciRequest o ⟨some (.mock k), -1, true⟩ c.set c.cmd c.pl =
        (cciHeader o 0 c.cmd c.set c.pl.length ++ c.pl, ⟨some (.mock k), -1, true⟩) := rfl
    simp only [mockStep, QueueSpec.step, harm]
    cases ht : tooDeep c.ti with
    | true =>
      rw [sendCmdCci_refused o c.env _ c.ti _ c.rspSz c.rspMin ((mock_refused k c.ti _).trans ht)]
      refine ⟨_, ?_, k, rfl, hk⟩
      simp only [failOutcome, payload, delivered, Option.map_some, if_true, List.take_nil, fillBuf_nil, zeros,
        List.drop_replicate]
    | false =>
      rw [sendCmdCci_mock o c.env _ k c.ti _ c.rspSz c.rspMin ((mock_refused k c.ti _).trans ht) rfl]
      obtain ⟨hres, hst⟩ := mock_send_refines o c hk hpl ha _ rfl
      rw [if_neg Bool.false_ne_true, Option.map_some, ← hres]
      exact ⟨_, rfl, _, rfl, hst⟩

/-- Every run of calls on a new mock answers as the queues do: a command gets
the response at place `used` of those configured for its opcode since the last
clear. The queries then give what the queues have counted and seen last. -/
theorem mock_refines_queues (o : ByteOrder) (cs : List MockCall) (h : ∀ c ∈ cs, c.Served) :
    let q := final QueueSpec.step .empty cs
    ∃ k, let ep : Endpoint := ⟨some (.mock k), -1, true⟩
      runM (mockStep o) mockOpened cs = some (ep, results QueueSpec.step .empty cs) ∧
        (∀ op, channel opcode op k.responses = (q.configured op).drop (q.used op)) ∧
        mockGetStats ep = some (ep, some (u32 q.sends, u32 q.matched)) ∧
        ∀ op pl, q.last = some (op, pl) → ∀ bufSz,
          mockGetLastCommand ep bufSz = some (ep, some ⟨op.1, op.2, pl.take bufSz, pl.length⟩) := by
  intro q
  obtain ⟨ep, hrun, k, rfl, hk⟩ := runM_refines (mockStep o) QueueSpec.step Refines MockCall.Served
    (mockStep_refines o) cs mockOpened .empty ⟨freshMock, rfl, freshMock_refines⟩ h
  refine ⟨k, hrun, hk.queue, ?_, ?_⟩
  · rw [← hk.sent, ← hk.returned]
    rfl
  · intro op pl hlast bufSz
    have hl := hk.last
    rw [hlast, Option.getD_some] at hl
    obtain ⟨rfl, rfl⟩ := Prod.mk.inj hl
    rfl

def identifySend : MockSend := ⟨takesAll, none, 0, 1, [], 12, 12⟩

/-- Two commands of which the second comes after two responses. -/
def earlyCommand : List MockCall :=
  [.send identifySend, .setResponse true true 0 1 1 none, .setResponse true true 0 1 2 none, .send identifySend]

/-- The second command gets the first response, as the first got none. -/
theorem second_command_first_response :
    (runM (mockStep .little) mockOpened earlyCommand).map Prod.snd =
      some [⟨retUnsupported, []⟩, ⟨0, []⟩, ⟨0, []⟩, ⟨1, []⟩] := rfl

theorem earlyCommand_refines : ∃ k, runM (mockStep .little) mockOpened earlyCommand =
    some (⟨some (.mock k), -1, true⟩, [⟨3, []⟩, ⟨0, []⟩, ⟨0, []⟩, ⟨1, []⟩]) := by
  have hserved : ∀ c ∈ earlyCommand, c.Served := by
    intro c hc
    simp only [earlyCommand, List.mem_cons, List.not_mem_nil, or_false] at hc
    rcases hc with rfl | rfl | rfl | rfl
    · exact ⟨by decide, le_refl 12, fun _ => rfl⟩
    · exact ⟨rfl, rfl⟩
    · exact ⟨rfl, rfl⟩
    · exact ⟨by decide, le_refl 12, fun _ => rfl⟩
  obtain ⟨k, hrun, -⟩ := mock_refines_queues .little earlyCommand hserved
  exact ⟨k, hrun⟩

end LibCxlmi.Run
