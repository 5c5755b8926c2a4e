import LibCxlmi.Run.Overlay

/-!
# FM-API on and off on a mock endpoint

`cxlmi_endpoint_enable_fmapi` and `cxlmi_endpoint_disable_fmapi` do not ask
which transport an endpoint has. On a mock, the FM-API descriptor they store is
half of the pointer to the first queued response, and the FM-API address they
write or clear covers a counter and the recorded opcode. They leave a mock alone
exactly as long as they have nothing to do.
-/

namespace LibCxlmi.Contract
open LibCxlmi.Word LibCxlmi.Cci LibCxlmi.Transport LibCxlmi.Commands LibCxlmi.Run

namespace Mock

/-! ### struct cxlmi_transport_mock: 56 bytes on an LP64 target -/

def magic : ℕ := 0
def responsesNext : ℕ := 8
def responsesPrev : ℕ := 16
def commandsSent : ℕ := 24
def responsesReturned : ℕ := 28
def lastCommandSet : ℕ := 32
def lastCommand : ℕ := 33
def lastPayload : ℕ := 40
def lastPayloadSize : ℕ := 48

end Mock

/-- A pointer to an object: aligned, and in the lower half of the addresses. -/
def IsAddress (a : ℕ) : Prop := a % 8 = 0 ∧ a < 2 ^ 63

/-- A queued response with the links of its `struct list_node`. -/
structure QueueNode where
  next : ℕ
  prev : ℕ
  response : MockResponse
  deriving DecidableEq, Repr

/-- The memory a mock refers to: the address of its own list head, the queued
responses, and the recorded payloads. -/
structure MockHeap where
  head : ℕ
  node : ℕ → Option QueueNode
  block : ℕ → Option Bytes
  head_address : IsAddress head
  node_address : ∀ a n, node a = some n → IsAddress a

/-- From `a`, whose predecessor is `p`, the list runs over the responses `rs`
back to the head, and its last node is `last`. -/
def Linked (heap : MockHeap) : ℕ → ℕ → List MockResponse → ℕ → Prop
  | p, a, [], last => a = heap.head ∧ last = p
  | p, a, r :: rs, last => ∃ n, heap.node a = some n ∧ n.prev = p ∧ n.response = r ∧ Linked heap a n.next rs last

/-- The object `mem` is a mock in the state `k`. -/
structure Holds (o : ByteOrder) (heap : MockHeap) (mem : Bytes) (k : MockTransport) : Prop where
  size : mem.length = 56
  magic : loadWord o (slice mem Mock.magic 4) = mockMagic.val
  queue : Linked heap heap.head (loadWord o (slice mem Mock.responsesNext 8)) k.responses
    (loadWord o (slice mem Mock.responsesPrev 8))
  sent : loadWord o (slice mem Mock.commandsSent 4) = k.commandsSent
  returned : loadWord o (slice mem Mock.responsesReturned 4) = k.responsesReturned
  set : byteAt mem Mock.lastCommandSet = k.lastCommandSet
  command : byteAt mem Mock.lastCommand = k.lastCommand
  payload : (loadWord o (slice mem Mock.lastPayload 8) = 0 ∧ k.lastPayload = []) ∨
    heap.block (loadWord o (slice mem Mock.lastPayload 8)) = some k.lastPayload
  payloadSize : loadWord o (slice mem Mock.lastPayloadSize 8) = k.lastPayload.length

theorem linked_address (heap : MockHeap) (p a : ℕ) (rs : List MockResponse) (last : ℕ)
    (h : Linked heap p a rs last) : IsAddress a := by
  cases rs with
  | nil => exact h.1 ▸ heap.head_address
  | cons r rs =>
    obtain ⟨n, hn, -⟩ := h
    exact heap.node_address a n hn

/- Half a pointer of ones points above the lower half, or is odd. -/
theorem ones_not_address (o : ByteOrder) (a b : Bytes) (ha : a.length = 4) (hb : b = List.replicate 4 255) :
    ¬IsAddress (loadWord o (a ++ b)) := by
  subst hb
  intro h
  obtain ⟨hal, hlt⟩ := h
  cases o with
  | little =>
    have hv : leVal (List.replicate 4 255) = 2 ^ 32 - 1 := by decide
    rw [loadWord, leVal_append, ha, hv] at hlt
    omega
  | big =>
    have hv : leVal (List.replicate 4 255) = 2 ^ 32 - 1 := by decide
    rw [loadWord, List.reverse_append, List.reverse_replicate, leVal_append, hv, List.length_replicate] at hal
    omega

theorem ones_not_holds (o : ByteOrder) (heap : MockHeap) (mem : Bytes) (k : MockTransport)
    (h : slice mem Mctp.fmapiSd 4 = storeInt o (-1)) : ¬Holds o heap mem k := by
  intro hk
  -- the descriptor is the second half of the pointer
  have hsplit : slice mem Mock.responsesNext 8 = slice mem Mock.responsesNext 4 ++ slice mem Mctp.fmapiSd 4 :=
    slice_add mem 8 4 4
  have haddr := linked_address heap _ _ _ _ hk.queue
  rw [hsplit] at haddr
  exact ones_not_address o _ _ (slice_length mem _ 4) (h.trans (storeInt_neg_one o)) haddr

/-! ### Calls that do something -/

def FdCall.opens : FdCall → Bool
  | .socket _ sd => decide (0 ≤ sd)
  | .close _ _ => false

def FdCall.closes : FdCall → Bool
  | .socket _ _ => false
  | .close _ _ => true

/-- A descriptor was opened, or the first pointer is no more. -/
def Spoiled (o : ByteOrder) (l : RawLife) : Prop :=
  l.mem.length = 56 ∧ ((∃ c ∈ l.calls, FdCall.opens c = true) ∨ slice l.mem Mctp.fmapiSd 4 = storeInt o (-1))

theorem slice_fmapiSd (o : ByteOrder) (mem : Bytes) (sd : ℤ) (h : mem.length = 56) :
    slice (storeAt mem Mctp.fmapiSd (storeInt o sd)) Mctp.fmapiSd 4 = storeInt o sd := by
  have hs := slice_storeAt_same mem Mctp.fmapiSd (storeInt o sd) (by rw [h]; decide)
  rwa [storeInt_length] at hs

theorem storeAt_size (mem : Bytes) (i : ℕ) (d : Bytes) (h : mem.length = 56) (hi : i + d.length ≤ 56) :
    (storeAt mem i d).length = 56 := by
  rw [storeAt_length mem i d (by omega), h]

theorem enable_spoils (o : ByteOrder) (l : RawLife) (sock : Option (U 31)) (hl : l.mem.length = 56)
    (hoff : l.hasFmapi = false) : Spoiled o (rawEnableFmapi o l sock) := by
  have hoff' : ¬l.hasFmapi = true := by rw [hoff]; exact Bool.false_ne_true
  have hmem : (storeAt l.mem Mctp.fmapiSd (storeInt o (socketReturns sock))).length = 56 :=
    storeAt_size _ _ _ hl (by rw [storeInt_length]; decide)
  rw [rawEnableFmapi, if_neg hoff']
  simp only [slice_fmapiSd o l.mem _ hl, loadInt_socketReturns]
  cases sock with
  | none => exact ⟨hmem, Or.inr (slice_fmapiSd o l.mem (-1) hl)⟩
  | some sd =>
    have hsd : ¬socketReturns (some sd) < 0 := Int.not_lt.mpr (Int.natCast_nonneg _)
    rw [if_neg hsd]
    refine ⟨storeAt_size _ _ _ hmem ?_, Or.inl ⟨_, List.mem_append_right _ (List.mem_singleton.mpr rfl), ?_⟩⟩
    · simp only [List.length_append, storeWord_length, zeros_length, List.length_cons, List.length_nil]
      decide
    · exact decide_eq_true (Int.not_lt.mp hsd)

theorem disable_spoils (o : ByteOrder) (l : RawLife) (hl : l.mem.length = 56) (hon : l.hasFmapi = true) :
    Spoiled o (rawDisableFmapi o l) := by
  have hon' : ¬l.hasFmapi = false := by rw [hon]; exact Bool.true_eq_false_eq_False
  have hmem : (storeAt l.mem Mctp.fmapiSd (storeInt o (-1))).length = 56 :=
    storeAt_size _ _ _ hl (by rw [storeInt_length]; decide)
  rw [rawDisableFmapi, if_neg hon']
  refine ⟨storeAt_size _ _ _ hmem (by rw [zeros_length]; decide), Or.inr ?_⟩
  -- clearing the address does not reach the descriptor
  rw [slice_storeAt_before _ _ _ _ _ (by rw [hmem]; decide) (by decide), slice_fmapiSd o l.mem _ hl]

theorem toggle_spoils (o : ByteOrder) (l : RawLife) (t : Toggle) (hl : l.mem.length = 56)
    (h : t.wants ≠ l.hasFmapi) : Spoiled o (l.toggle o t) := by
  cases t with
  | enable sock => exact enable_spoils o l sock hl (Bool.eq_false_iff.mpr fun hon => h hon.symm)
  | disable => exact disable_spoils o l hl (Bool.eq_true_of_not_eq_false fun hoff => h hoff.symm)

/- Later calls do not mend it. -/
theorem spoiled_toggle (o : ByteOrder) (l : RawLife) (t : Toggle) (h : Spoiled o l) : Spoiled o (l.toggle o t) := by
  by_cases hw : t.wants = l.hasFmapi
  · rw [toggle_same o l t hw]
    exact h
  · exact toggle_spoils o l t h.1 hw

theorem spoiled_run (o : ByteOrder) (ts : List Toggle) (l : RawLife) (h : Spoiled o l) :
    Spoiled o (ts.foldl (RawLife.toggle o) l) := by
  induction ts generalizing l with
  | nil => exact h
  | cons t ts ih => exact ih (l.toggle o t) (spoiled_toggle o l t h)

theorem run_spoils (o : ByteOrder) (ts : List Toggle) (l : RawLife) (hl : l.mem.length = 56)
    (h : ∃ t ∈ ts, t.wants ≠ l.hasFmapi) : Spoiled o (ts.foldl (RawLife.toggle o) l) := by
  induction ts with
  | nil =>
    obtain ⟨t, ht, -⟩ := h
    cases ht
  | cons t ts ih =>
    rw [List.foldl_cons]
    by_cases hw : t.wants = l.hasFmapi
    · rw [toggle_same o l t hw]
      apply ih
      obtain ⟨u, hu, hne⟩ := h
      rcases List.mem_cons.mp hu with rfl | hu
      · exact absurd hw hne
      · exact ⟨u, hu, hne⟩
    · exact spoiled_run o ts _ (toggle_spoils o l t hl hw)

theorem run_same (o : ByteOrder) (ts : List Toggle) (l : RawLife) (h : ∀ t ∈ ts, t.wants = l.hasFmapi) :
    ts.foldl (RawLife.toggle o) l = l := by
  induction ts with
  | nil => rfl
  | cons t ts ih =>
    rw [List.foldl_cons, toggle_same o l t (h t List.mem_cons_self)]
    exact ih fun u hu => h u (List.mem_cons_of_mem t hu)

/-- The calls `ts` on a mock endpoint. -/
def toggles (o : ByteOrder) (mem : Bytes) (hasFmapi : Bool) (ts : List Toggle) : RawLife :=
  ts.foldl (RawLife.toggle o) ⟨mem, hasFmapi, []⟩

/-- A mock keeps its queue, its counters and its recorded command, and no
descriptor is opened or closed, exactly if every call asks for the value that
`has_fmapi` has from the start. -/
theorem mock_frame_iff (o : ByteOrder) (heap : MockHeap) (mem : Bytes) (k : MockTransport) (hasFmapi : Bool)
    (ts : List Toggle) (h : Holds o heap mem k) :
    (Holds o heap (toggles o mem hasFmapi ts).mem k ∧
      ∀ c ∈ (toggles o mem hasFmapi ts).calls, FdCall.opens c = false ∧ FdCall.closes c = false) ↔
      ∀ t ∈ ts, t.wants = hasFmapi := by
  constructor
  · rintro ⟨hk, hcalls⟩ t ht
    by_contra hne
    rcases (run_spoils o ts ⟨mem, hasFmapi, []⟩ h.size ⟨t, ht, hne⟩).2 with ⟨c, hc, hopen⟩ | hones
    · rw [(hcalls c hc).1] at hopen
      cases hopen
    · exact ones_not_holds o heap _ k hones hk
  · intro hw
    rw [toggles, run_same o ts _ hw]
    exact ⟨h, fun c hc => absurd hc List.not_mem_nil⟩

/-! ### A mock with one response in its queue -/

def queuedHeap : MockHeap where
  head := 0x5555557572A8
  node a := if a = 0x555555757300 then some ⟨0x5555557572A8, 0x5555557572A8, ⟨0x00, 0x01, 0, []⟩⟩ else none
  block _ := none
  head_address := ⟨rfl, by decide⟩
  node_address a n h := by
    split_ifs at h with ha
    subst ha
    exact ⟨rfl, by decide⟩

def queuedMock : MockTransport := ⟨[⟨0x00, 0x01, 0, []⟩], 3, 2, 0x41, 0x02, []⟩

def queuedMem : Bytes :=
  leBytes 4 mockMagic.val ++ zeros 4 ++ leBytes 8 0x555555757300 ++ leBytes 8 0x555555757300 ++ leBytes 4 3 ++
    leBytes 4 2 ++ [0x41, 0x02] ++ zeros 6 ++ zeros 8 ++ zeros 8

theorem queuedMem_holds : Holds .little queuedHeap queuedMem queuedMock where
  size := by decide
  magic := by decide
  queue := ⟨⟨0x5555557572A8, 0x5555557572A8, ⟨0x00, 0x01, 0, []⟩⟩, by decide, rfl, rfl, rfl, by decide⟩
  sent := by decide
  returned := by decide
  set := by decide
  command := by decide
  payload := Or.inl ⟨by decide, rfl⟩
  payloadSize := by decide

theorem enables_leave_queuedMock :
    Holds .little queuedHeap (toggles .little queuedMem true [.enable none, .enable (some 7)]).mem queuedMock ∧
      ∀ c ∈ (toggles .little queuedMem true [.enable none, .enable (some 7)]).calls,
        FdCall.opens c = false ∧ FdCall.closes c = false :=
  (mock_frame_iff .little queuedHeap queuedMem queuedMock true [.enable none, .enable (some 7)]
    queuedMem_holds).mpr (by decide)

/- FM-API is on from `cxlmi_open_mock` on. One disable closes half a pointer as
a descriptor, points the queue nowhere, and clears what was recorded. Enabling
FM-API again leaves 45 responses returned, the family of the address. -/
theorem disable_spoils_queuedMock :
    Holds .little queuedHeap queuedMem queuedMock ∧
      (toggles .little queuedMem true [.disable]).calls = [.close .fmapi 0x5555] ∧
      loadWord .little (slice (toggles .little queuedMem true [.disable]).mem Mock.responsesNext 8) =
        0xFFFFFFFF55757300 ∧
      loadWord .little (slice (toggles .little queuedMem true [.disable]).mem Mock.responsesReturned 4) = 0 ∧
      byteAt (toggles .little queuedMem true [.disable]).mem Mock.lastCommandSet = 0 ∧
      loadWord .little
        (slice (toggles .little queuedMem true [.disable, .enable (some 7)]).mem Mock.responsesReturned 4) = 45 :=
  ⟨queuedMem_holds, by decide, by decide, by decide, by decide, by decide⟩

end LibCxlmi.Contract
