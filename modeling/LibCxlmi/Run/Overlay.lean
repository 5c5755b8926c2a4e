import LibCxlmi.Run.Lifecycle
import LibCxlmi.Word.Memory

/-!
# FM-API on and off, byte by byte (cxlmi.c:257-307)

Both functions take any transport data for a `struct cxlmi_transport_mctp`.
Here they act on the bytes of the transport data, at the offsets of an LP64
target, so that they also say what happens to the data of another transport.
On MCTP data they are the functions of the life cycle.
-/

namespace LibCxlmi.Run
open LibCxlmi.Word LibCxlmi.Cci LibCxlmi.Transport LibCxlmi.Commands

namespace Mctp

/-! ### struct cxlmi_transport_mctp: 44 bytes -/

def nid : ℕ := 0
def eid : ℕ := 4
def fmapiSd : ℕ := 12
def fmapiAddr : ℕ := 28

end Mctp

def sockaddrBytes (o : ByteOrder) (a : SockaddrMctp) : Bytes :=
  storeWord o 2 a.family ++ zeros 2 ++ storeWord o 4 a.network.val ++ [a.eid, a.type, a.tag, 0]

@[simp] theorem sockaddrBytes_length (o : ByteOrder) (a : SockaddrMctp) : (sockaddrBytes o a).length = 12 := by
  simp only [sockaddrBytes, List.length_append, storeWord_length, zeros_length, List.length_cons, List.length_nil]

theorem sockaddrBytes_zero (o : ByteOrder) : sockaddrBytes o sockaddrZero = zeros 12 := by
  cases o with
  | little => rfl
  | big => rfl

/-- An endpoint whose transport data is the object `mem`. -/
structure RawLife where
  mem : Bytes
  hasFmapi : Bool
  calls : List FdCall
  deriving DecidableEq, Repr

/-- What `socket` returns: a descriptor, or -1. -/
def socketReturns : Option (U 31) → ℤ
  | none => -1
  | some sd => sd.val

/- The initializer of the address reads the network and endpoint id before the
descriptor is stored. -/
def rawEnableFmapi (o : ByteOrder) (l : RawLife) (sock : Option (U 31)) : RawLife :=
  if l.hasFmapi then l
  else
    let addr : Bytes := storeWord o 2 45 ++ zeros 2 ++
      storeWord o 4 (loadWord o (slice l.mem Mctp.nid 4)) ++ [byteAt l.mem Mctp.eid, mctpTypeCxlFmapi, 0x08, 0]
    let mem := storeAt l.mem Mctp.fmapiSd (storeInt o (socketReturns sock))
    let calls := l.calls ++ [.socket .fmapi (socketReturns sock)]
    if loadInt o (slice mem Mctp.fmapiSd 4) < 0 then ⟨mem, false, calls⟩
    else ⟨storeAt mem Mctp.fmapiAddr addr, true, calls⟩

def rawDisableFmapi (o : ByteOrder) (l : RawLife) : RawLife :=
  if l.hasFmapi = false then l
  else
    ⟨storeAt (storeAt l.mem Mctp.fmapiSd (storeInt o (-1))) Mctp.fmapiAddr (zeros 12), false,
      l.calls ++ [.close .fmapi (loadInt o (slice l.mem Mctp.fmapiSd 4))]⟩

inductive Toggle where
  | enable (sock : Option (U 31))
  | disable
  deriving DecidableEq, Repr

/-- The value of `has_fmapi` that is asked for. -/
def Toggle.wants : Toggle → Bool
  | .enable _ => true
  | .disable => false

def RawLife.toggle (o : ByteOrder) (l : RawLife) : Toggle → RawLife
  | .enable sock => rawEnableFmapi o l sock
  | .disable => rawDisableFmapi o l

theorem toggle_same (o : ByteOrder) (l : RawLife) (t : Toggle) (h : t.wants = l.hasFmapi) : l.toggle o t = l := by
  cases t with
  | enable sock => exact if_pos h.symm
  | disable => exact if_pos h.symm

/-! ### A descriptor stored by a socket call -/

theorem loadInt_socketReturns (o : ByteOrder) (sock : Option (U 31)) :
    loadInt o (storeInt o (socketReturns sock)) = socketReturns sock := by
  have hb : -1 ≤ socketReturns sock ∧ socketReturns sock < 2 ^ 31 := by
    cases sock with
    | none => exact ⟨Int.le_refl _, by decide⟩
    | some sd =>
      have hsd : sd.val < 2 ^ 31 := sd.isLt
      simp only [socketReturns]
      omega
  exact loadInt_storeInt o _ (by omega) hb.2

/-! ### On MCTP data -/

/-- The bytes of MCTP transport data. -/
def mctpImage (o : ByteOrder) (m : MctpTransport) : Bytes :=
  storeWord o 4 m.nid.val ++ [m.eid] ++ zeros 3 ++ storeInt o m.sd ++ storeInt o m.fmapiSd ++ sockaddrBytes o m.addr ++
    sockaddrBytes o m.fmapiAddr ++ storeInt o m.tag

/-- The endpoint has the bytes `r.mem` as its MCTP data. -/
def Laid (o : ByteOrder) (r : RawLife) (l : Life) : Prop :=
  ∃ m, l.ep.transportData = some (.mctp m) ∧ r.mem = mctpImage o m ∧ r.hasFmapi = l.ep.hasFmapi ∧ r.calls = l.calls

theorem mctpImage_fmapiSd (o : ByteOrder) (m : MctpTransport) :
    slice (mctpImage o m) Mctp.fmapiSd 4 = storeInt o m.fmapiSd := by
  have h := slice_mid (storeWord o 4 m.nid.val ++ [m.eid] ++ zeros 3 ++ storeInt o m.sd) (storeInt o m.fmapiSd)
    (sockaddrBytes o m.addr ++ sockaddrBytes o m.fmapiAddr ++ storeInt o m.tag)
  simp only [List.length_append, storeWord_length, storeInt_length, zeros_length, List.length_cons, List.length_nil,
    ← List.append_assoc] at h
  exact h

theorem store_fmapiSd (o : ByteOrder) (m : MctpTransport) (sd : ℤ) :
    storeAt (mctpImage o m) Mctp.fmapiSd (storeInt o sd) = mctpImage o { m with fmapiSd := sd } := by
  have h := storeAt_mid (storeWord o 4 m.nid.val ++ [m.eid] ++ zeros 3 ++ storeInt o m.sd) (storeInt o m.fmapiSd)
    (sockaddrBytes o m.addr ++ sockaddrBytes o m.fmapiAddr ++ storeInt o m.tag) (storeInt o sd)
    (by rw [storeInt_length, storeInt_length])
  simp only [List.length_append, storeWord_length, storeInt_length, zeros_length, List.length_cons, List.length_nil,
    ← List.append_assoc] at h
  exact h

theorem store_fmapiAddr (o : ByteOrder) (m : MctpTransport) (a : SockaddrMctp) :
    storeAt (mctpImage o m) Mctp.fmapiAddr (sockaddrBytes o a) = mctpImage o { m with fmapiAddr := a } := by
  have h := storeAt_mid (storeWord o 4 m.nid.val ++ [m.eid] ++ zeros 3 ++ storeInt o m.sd ++ storeInt o m.fmapiSd ++
    sockaddrBytes o m.addr) (sockaddrBytes o m.fmapiAddr) (storeInt o m.tag) (sockaddrBytes o a)
    (by rw [sockaddrBytes_length, sockaddrBytes_length])
  simp only [List.length_append, storeWord_length, storeInt_length, sockaddrBytes_length, zeros_length,
    List.length_cons, List.length_nil] at h
  exact h

theorem mctpImage_nid (o : ByteOrder) (m : MctpTransport) :
    loadWord o (slice (mctpImage o m) Mctp.nid 4) = m.nid.val := by
  have h := slice_mid [] (storeWord o 4 m.nid.val) ([m.eid] ++ zeros 3 ++ storeInt o m.sd ++ storeInt o m.fmapiSd ++
    sockaddrBytes o m.addr ++ sockaddrBytes o m.fmapiAddr ++ storeInt o m.tag)
  simp only [List.nil_append, List.length_nil, storeWord_length, ← List.append_assoc] at h
  have hnid : m.nid.val < 256 ^ 4 := m.nid.isLt
  rw [mctpImage, Mctp.nid, h, loadWord_storeWord, Nat.mod_eq_of_lt hnid]

theorem mctpImage_eid (o : ByteOrder) (m : MctpTransport) : byteAt (mctpImage o m) Mctp.eid = m.eid := by
  have h := slice_mid (storeWord o 4 m.nid.val) [m.eid] (zeros 3 ++ storeInt o m.sd ++ storeInt o m.fmapiSd ++
    sockaddrBytes o m.addr ++ sockaddrBytes o m.fmapiAddr ++ storeInt o m.tag)
  simp only [storeWord_length, List.length_cons, List.length_nil, ← List.append_assoc] at h
  exact (List.cons.inj h).1

theorem rawEnableFmapi_laid (o : ByteOrder) (r : RawLife) (l : Life) (sock : Option (U 31)) (h : Laid o r l) :
    ∃ l', endpointEnableFmapi l (socketReturns sock) = some l' ∧ Laid o (rawEnableFmapi o r sock) l' := by
  obtain ⟨m, hm, hmem, hf, hc⟩ := h
  cases hon : l.ep.hasFmapi with
  | true =>
    refine ⟨l, by rw [endpointEnableFmapi, if_pos hon], ?_⟩
    rw [rawEnableFmapi, if_pos (hf.trans hon)]
    exact ⟨m, hm, hmem, hf, hc⟩
  | false =>
    refine ⟨l.fmapiSocket m (socketReturns sock), by rw [endpointEnableFmapi, hon, hm]; rfl, ?_⟩
    have hoff : ¬r.hasFmapi = true := by rw [hf, hon]; exact Bool.false_ne_true
    have hsd : loadInt o (slice (mctpImage o { m with fmapiSd := socketReturns sock }) Mctp.fmapiSd 4) =
        socketReturns sock := by
      rw [mctpImage_fmapiSd, loadInt_socketReturns]
    simp only [rawEnableFmapi, if_neg hoff, hmem, store_fmapiSd, hsd, mctpImage_nid, mctpImage_eid]
    by_cases hneg : socketReturns sock < 0
    · refine ⟨{ m with fmapiSd := socketReturns sock }, ?_, ?_, ?_, ?_⟩
      · simp only [Life.fmapiSocket, if_pos hneg]
      · simp only [if_pos hneg]
      · simp only [Life.fmapiSocket, if_pos hneg, hon]
      · simp only [Life.fmapiSocket, if_pos hneg, hc]
    · refine ⟨{ m with
        fmapiSd := socketReturns sock, fmapiAddr := sockaddrMctp m.nid m.eid mctpTypeCxlFmapi }, ?_, ?_, ?_, ?_⟩
      · simp only [Life.fmapiSocket, if_neg hneg]
      · simp only [if_neg hneg]
        exact store_fmapiAddr o { m with fmapiSd := socketReturns sock } (sockaddrMctp m.nid m.eid mctpTypeCxlFmapi)
      · simp only [Life.fmapiSocket, if_neg hneg]
      · simp only [Life.fmapiSocket, if_neg hneg, hc]

theorem rawDisableFmapi_laid (o : ByteOrder) (r : RawLife) (l : Life) (h : Laid o r l)
    (hint : ∀ m, l.ep.transportData = some (.mctp m) → -2 ^ 31 ≤ m.fmapiSd ∧ m.fmapiSd < 2 ^ 31) :
    ∃ l', endpointDisableFmapi l = some l' ∧ Laid o (rawDisableFmapi o r) l' := by
  obtain ⟨m, hm, hmem, hf, hc⟩ := h
  cases hon : l.ep.hasFmapi with
  | false =>
    refine ⟨l, by rw [endpointDisableFmapi, if_pos hon], ?_⟩
    rw [rawDisableFmapi, if_pos (hf.trans hon)]
    exact ⟨m, hm, hmem, hf, hc⟩
  | true =>
    refine ⟨_, by rw [endpointDisableFmapi, hon, hm]; rfl, ?_⟩
    have hoff : ¬r.hasFmapi = false := by rw [hf, hon]; exact Bool.true_eq_false_eq_False
    have hsd : loadInt o (storeInt o m.fmapiSd) = m.fmapiSd := loadInt_storeInt o _ (hint m hm).1 (hint m hm).2
    rw [rawDisableFmapi, if_neg hoff, hmem, store_fmapiSd, ← sockaddrBytes_zero o, store_fmapiAddr, mctpImage_fmapiSd,
      hsd, hc]
    exact ⟨_, rfl, rfl, rfl, rfl⟩

end LibCxlmi.Run
