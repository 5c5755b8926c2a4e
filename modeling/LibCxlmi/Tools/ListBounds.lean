import LibCxlmi.Tools.ListCommands
import LibCxlmi.Tools.Sent

/-!
# Bounds of the list subcommands

A list subcommand stays in its buffers when the device reports no more entries than
there is room for and, where the reply is dumped, no longer payload than it was
asked for. None of the seven makes sure of that.
-/

namespace LibCxlmi.Tools
open LibCxlmi.Word LibCxlmi.Commands LibCxlmi.Dialogue

section Bounds
variable (k : ListCommand) (room : ℕ)

/-- Nothing outside the reply buffer, the host copy or the dump's buffer is touched. -/
structure ListCommand.Within (u : Touched) : Prop where
  reply : Inside (16 + k.payloadSz room) u.reply
  host : Inside (k.payloadSz room) u.host
  dump : Inside ldAllocBufSz u.dump

theorem untouched_within : k.Within room untouched := ⟨inside_nil _, inside_nil _, inside_nil _⟩

theorem within_join_iff (a b : Touched) : k.Within room (a.join b) ↔ k.Within room a ∧ k.Within room b := by
  constructor
  · intro h
    obtain ⟨hra, hrb⟩ := (inside_append _ a.reply b.reply).mp h.reply
    obtain ⟨hha, hhb⟩ := (inside_append _ a.host b.host).mp h.host
    obtain ⟨hda, hdb⟩ := (inside_append _ a.dump b.dump).mp h.dump
    exact ⟨⟨hra, hha, hda⟩, hrb, hhb, hdb⟩
  · rintro ⟨ha, hb⟩
    exact ⟨(inside_append _ _ _).mpr ⟨ha.reply, hb.reply⟩, (inside_append _ _ _).mpr ⟨ha.host, hb.host⟩,
      (inside_append _ _ _).mpr ⟨ha.dump, hb.dump⟩⟩

/-! ### Entries -/

/-- Where the last member of an entry that is read ends. -/
def ListCommand.entryEnd : ListCommand → ℕ
  | .getSupportedFeat => 30
  | .fmGetLdAlloc | .fmSetLdAlloc => 16
  | .fmGetQosAllocBw | .fmSetQosAllocBw => 1
  | .fmDcdGetExtList => 34
  | .fmDcdListTags => 17

/- The room for features is in bytes, and of the last one the reserved bytes may be
missing. -/
def ListCommand.Room (n : ℕ) : Prop :=
  match k with
  | .getSupportedFeat => n = 0 ∨ (n - 1) * 48 + 30 ≤ room
  | _ => n ≤ room

theorem fields_extent : Extent k.entryEnd k.fields :=
  ⟨by cases k <;> decide, by cases k <;> decide⟩

theorem base_le_payloadSz : k.base ≤ k.payloadSz room := by
  cases k with
  | _ => exact Nat.le_add_right _ _

theorem head_inside : Inside (k.payloadSz room) k.head := by
  have hbase : Inside k.base k.head := by cases k <;> decide
  exact hbase.mono _ _ _ (base_le_payloadSz k room)

theorem entries_inside_iff (n : ℕ) : Inside (k.payloadSz room) (k.entries n) ↔ k.Room room n := by
  cases k with
  | getSupportedFeat =>
    refine (inside_entryFields_iff 8 48 30 n _ (fields_extent .getSupportedFeat) (8 + room)).trans ?_
    change _ ↔ n = 0 ∨ (n - 1) * 48 + 30 ≤ room
    omega
  | _ => exact inside_entries_iff _ _ _ n _ (fields_extent _) (by decide) (by decide) room

theorem listed_inside_iff (n : ℕ) : Inside (k.payloadSz room) (k.head ++ k.entries n) ↔ k.Room room n := by
  rw [inside_append, entries_inside_iff]
  exact and_iff_right (head_inside k room)

theorem copied_room (count : ℕ) (h : k.Room room count) : k.Room room (k.copied room count) := by
  cases k with
  | fmSetLdAlloc => exact Nat.le_refl room
  | _ => exact h

theorem hostTouched_inside (count : ℕ) (h : k.Room room count) :
    Inside (k.payloadSz room) (k.hostTouched room count) := by
  have hcopied := (listed_inside_iff k room _).mpr (copied_room k room count h)
  have hprinted := (listed_inside_iff k room count).mpr h
  cases k with
  | getSupportedFeat =>
    have hcleared : Inside (8 + room) [(0, 8 + room)] := List.forall_mem_singleton.mpr (Nat.le_of_eq (Nat.zero_add _))
    exact (inside_append _ _ _).mpr ⟨(inside_append _ _ _).mpr ⟨hcleared, hcopied⟩, hprinted⟩
  | fmDcdGetExtList => exact inside_nil _
  | fmDcdListTags => exact inside_nil _
  | _ => exact (inside_append _ _ _).mpr ⟨hcopied, hprinted⟩

/- fm-set-ld-alloc goes wrong when it prints the host copy, the others already when they
read the reply. -/
theorem decoded_within_iff (count : ℕ) : k.Within room (k.decoded room count) ↔ k.Room room count := by
  constructor
  · intro h
    cases k with
    | fmSetLdAlloc => exact (listed_inside_iff _ room count).mp ((inside_append _ _ _).mp h.host).2
    | _ => exact (listed_inside_iff _ room count).mp ((inside_shifted 16 _ _).mp h.reply)
  · intro h
    have hread := (listed_inside_iff k room _).mpr (copied_room k room count h)
    exact ⟨(inside_shifted 16 _ _).mpr hread, hostTouched_inside k room count h, inside_nil _⟩

/-! ### Dumps -/

/-- The lengths for which a raw dump reads nothing behind the reply. -/
def ListCommand.DumpRoom (plLen : ℕ) : Prop :=
  match k with
  | .fmGetLdAlloc => plLen ≤ k.payloadSz room ∨ ldAllocBufSz < plLen
  | .fmGetQosAllocBw => plLen ≤ k.payloadSz room
  | _ => True

theorem plLengthSpans_inside (size : ℕ) : Inside (16 + size) plLengthSpans := by
  have hheader : Inside 16 plLengthSpans := by decide
  exact hheader.mono _ _ _ (Nat.le_add_right 16 size)

theorem payload_inside_iff (size n : ℕ) : Inside (16 + size) (plLengthSpans ++ bytesFrom 16 n) ↔ n ≤ size := by
  rw [inside_append, and_iff_right (plLengthSpans_inside size), inside_bytesFrom_iff]
  omega

theorem bytesFrom_zero_inside (size n : ℕ) (h : n ≤ size) : Inside size (bytesFrom 0 n) :=
  (inside_bytesFrom_iff 0 n size).mpr (Or.inr (by omega))

theorem ldDump_within_iff (rsp : Bytes) (count : ℕ) (h : count ≤ room) :
    (∀ sink, ListCommand.fmGetLdAlloc.Within room (ListCommand.fmGetLdAlloc.dumped rsp count sink)) ↔
      ListCommand.fmGetLdAlloc.DumpRoom room (Cci.plLength (rsp.drop 4)) := by
  have hlen := plLengthSpans_inside (ListCommand.fmGetLdAlloc.payloadSz room)
  have hlistLen : Inside (ListCommand.fmGetLdAlloc.payloadSz room) [(3, 1)] :=
    List.forall_mem_singleton.mpr (Nat.le_add_right 4 _)
  have hlisted := (listed_inside_iff .fmGetLdAlloc room count).mpr h
  unfold ListCommand.dumped
  dsimp only
  by_cases hzero : Cci.plLength (rsp.drop 4) = 0
  · refine iff_of_true (fun sink => ?_) (Or.inl (hzero.trans_le (Nat.zero_le _)))
    rw [if_pos hzero]
    by_cases hempty : count = 0 ∨ ldAllocBufSz < ListCommand.fmGetLdAlloc.payloadSz count
    · rw [if_pos hempty]
      exact ⟨hlen, hlistLen, inside_nil _⟩
    · rw [if_neg hempty]
      -- The response that is built is as long as the list in the host copy.
      have hneed := Nat.le_of_not_lt (not_or.mp hempty).2
      have hbuilt := (listed_inside_iff .fmGetLdAlloc count count).mpr (Nat.le_refl count)
      refine ⟨hlen, (inside_append _ _ _).mpr ⟨hlistLen, hlisted⟩, (inside_append _ _ _).mpr ⟨?_, ?_⟩⟩
      · exact hbuilt.mono _ _ _ hneed
      · exact bytesFrom_zero_inside _ _ ((Nat.min_le_left _ sink).trans hneed)
  · simp only [if_neg hzero]
    by_cases hlong : ldAllocBufSz < Cci.plLength (rsp.drop 4)
    · simp only [if_pos hlong]
      exact iff_of_true (fun sink => ⟨hlen, inside_nil _, inside_nil _⟩) (Or.inr hlong)
    · simp only [if_neg hlong]
      have hfits := Nat.le_of_not_lt hlong
      constructor
      · exact fun hall => Or.inl ((payload_inside_iff _ _).mp (hall 0).reply)
      · intro hroom sink
        refine ⟨(payload_inside_iff _ _).mpr (hroom.resolve_right hlong), inside_nil _, ?_⟩
        exact (inside_append _ _ _).mpr ⟨bytesFrom_zero_inside _ _ hfits,
          bytesFrom_zero_inside _ _ ((Nat.min_le_left _ sink).trans hfits)⟩

/- A file that takes every byte shows the whole length. -/
theorem qosDump_within_iff (rsp : Bytes) (count : ℕ) (h : count ≤ room) :
    (∀ sink, ListCommand.fmGetQosAllocBw.Within room (ListCommand.fmGetQosAllocBw.dumped rsp count sink)) ↔
      ListCommand.fmGetQosAllocBw.DumpRoom room (Cci.plLength (rsp.drop 4)) := by
  have hsz : ListCommand.fmGetQosAllocBw.payloadSz room = 2 + room * 1 := rfl
  unfold ListCommand.dumped
  dsimp only
  by_cases hzero : Cci.plLength (rsp.drop 4) = 0
  · refine iff_of_true (fun sink => ?_) (hzero.trans_le (Nat.zero_le _))
    rw [if_pos hzero]
    have hnumber : Inside (ListCommand.fmGetQosAllocBw.payloadSz room) [(0, 1)] :=
      List.forall_mem_singleton.mpr (by omega)
    exact ⟨(payload_inside_iff _ _).mpr (by omega), hnumber, inside_nil _⟩
  · simp only [if_neg hzero]
    constructor
    · intro hall
      have hle := (payload_inside_iff _ _).mp (hall (Cci.plLength (rsp.drop 4))).reply
      rwa [Nat.min_self] at hle
    · exact fun hroom sink =>
        ⟨(payload_inside_iff _ _).mpr ((Nat.min_le_left _ sink).trans hroom), inside_nil _, inside_nil _⟩

theorem dumped_within_iff (rsp : Bytes) (count : ℕ) (h : k.Room room count) :
    (∀ sink, k.Within room (k.dumped rsp count sink)) ↔ k.DumpRoom room (Cci.plLength (rsp.drop 4)) := by
  cases k with
  | fmGetLdAlloc => exact ldDump_within_iff room rsp count h
  | fmGetQosAllocBw => exact qosDump_within_iff room rsp count h
  | _ => exact iff_of_true (fun _ => untouched_within _ room) trivial

end Bounds

/-! ### Replies -/

/-- The counts and, for a dump, the length in a reply are within what was asked for. -/
structure ListCommand.Fits (k : ListCommand) (o : ByteOrder) (r : ListRequest) (rsp : Bytes) : Prop where
  entries : k.Room r.room (k.count o rsp)
  dump : r.rawDump = true → k.DumpRoom r.room (Cci.plLength (rsp.drop 4))

theorem touched_within_iff (k : ListCommand) (o : ByteOrder) (r : ListRequest) (rsp : Bytes) :
    (∀ sink, k.Within r.room (k.touched o r rsp sink)) ↔ (innerReturnCode o rsp = 0 → k.Fits o r rsp) := by
  have hcode : k.Within r.room ⟨[(12, 2)], [], []⟩ :=
    ⟨List.forall_mem_singleton.mpr (by dsimp only; omega), inside_nil _, inside_nil _⟩
  have hdecoded : k.Within r.room (Touched.join ⟨[(12, 2)], [], []⟩ (k.decoded r.room (k.count o rsp))) ↔
      k.Room r.room (k.count o rsp) := by
    rw [within_join_iff, and_iff_right hcode, decoded_within_iff]
  unfold ListCommand.touched
  dsimp only
  by_cases hinner : innerReturnCode o rsp = 0
  · have hgo : ¬innerReturnCode o rsp ≠ 0 := not_not.mpr hinner
    simp only [if_neg hgo]
    by_cases hdump : r.rawDump = true
    · simp only [if_pos hdump, within_join_iff k r.room (Touched.join _ _), hdecoded]
      constructor
      · intro h _
        have hroom := (h 0).1
        exact ⟨hroom, fun _ => (dumped_within_iff k r.room rsp _ hroom).mp fun sink => (h sink).2⟩
      · intro h sink
        have hfits := h hinner
        exact ⟨hfits.entries, (dumped_within_iff k r.room rsp _ hfits.entries).mpr (hfits.dump hdump) sink⟩
    · simp only [if_neg hdump]
      constructor
      · exact fun h _ => ⟨hdecoded.mp (h 0), fun hd => absurd hd hdump⟩
      · exact fun h _ => hdecoded.mpr (h hinner).entries
  · have hstop : innerReturnCode o rsp ≠ 0 := hinner
    simp only [if_pos hstop]
    exact iff_of_true (fun _ => hcode) fun h => absurd h hinner

/-! ### Runs -/

/-- The device answers `x`; whether there is memory is open. -/
def RepliesWith (x : VendorReply) : (q : SysCall) → q.Answer → Prop
  | .vendor _ _, y => y = x
  | _, _ => True

/-- Whatever becomes of the allocations and the dump's file, a run stays in its buffers. -/
def ListCommand.Stays (k : ListCommand) (o : ByteOrder) (disk : Disk) (args : List String) (x : VendorReply) : Prop :=
  ∀ sink t u, (k.subcommand o disk sink args).Runs t u → Answered (RepliesWith x) t →
    ∀ r, k.request o disk args = some r → k.Within r.room u

section Runs
variable (k : ListCommand) (o : ByteOrder) (disk : Disk) (args : List String) (x : VendorReply) (r : ListRequest)

theorem ends_calloc_true (n : ℕ) : (calloc n).Ends (RepliesWith x) true :=
  (ends_ask (RepliesWith x) (SysCall.calloc n) true).mpr trivial

theorem ends_allocate_true : (k.allocate r).Ends (RepliesWith x) true := by
  have hmem := ends_calloc_true x
  cases k with
  | getSupportedFeat => exact (ends_calloc _ _ _ _ (fun _ => trivial) true).mpr (Or.inr (hmem _))
  | fmGetLdAlloc | fmGetQosAllocBw =>
    exact (ends_bind _ _ _ _).mpr ⟨true, hmem _, (ends_bind _ _ _ _).mpr ⟨true, hmem _, rfl⟩⟩
  | fmSetLdAlloc | fmSetQosAllocBw =>
    exact (ends_bind _ _ _ _).mpr ⟨true, hmem _, (ends_bind _ _ _ _).mpr ⟨true, hmem _,
      (ends_bind _ _ _ _).mpr ⟨true, hmem _, rfl⟩⟩⟩
  | fmDcdGetExtList | fmDcdListTags => exact hmem _

/-- What a run with the request `r` comes back with. -/
theorem ends_subcommand (hr : k.request o disk args = some r) (sink : ℕ) (u : Touched)
    (h : (k.subcommand o disk sink args).Ends (RepliesWith x) u) :
    u = untouched ∨ x.rc = 0 ∧ u = k.touched o r (x.buffer (16 + k.payloadSz r.room)) sink := by
  rw [ListCommand.subcommand, hr] at h
  obtain ⟨ok, -, h⟩ := (ends_bind _ _ _ u).mp h
  cases ok with
  | false => exact Or.inl h
  | true =>
    obtain ⟨⟨rc, rsp⟩, hsent, h⟩ := (ends_bind _ _ _ u).mp h
    obtain ⟨y, rfl, rfl, rfl⟩ := (ends_vendorSpecific _ _ _ rc rsp).mp hsent
    replace h := (ends_ret _ _ u).mp h
    by_cases hrc : y.rc = 0
    · rw [if_neg (not_not.mpr hrc)] at h
      exact Or.inr ⟨hrc, h⟩
    · rw [if_pos hrc] at h
      exact Or.inl h

theorem ends_subcommand_touched (hr : k.request o disk args = some r) (hrc : x.rc = 0) (sink : ℕ) :
    (k.subcommand o disk sink args).Ends (RepliesWith x)
      (k.touched o r (x.buffer (16 + k.payloadSz r.room)) sink) := by
  rw [ListCommand.subcommand, hr]
  refine (ends_bind _ _ _ _).mpr ⟨true, ends_allocate_true k x r, ?_⟩
  refine (ends_bind _ _ _ _).mpr ⟨(x.rc, x.buffer (16 + k.payloadSz r.room)), ?_, ?_⟩
  · exact (ends_vendorSpecific _ _ _ _ _).mpr ⟨x, rfl, rfl, rfl⟩
  · exact (ends_ret _ _ _).mpr (if_neg (not_not.mpr hrc)).symm

theorem stays_iff_touched (hr : k.request o disk args = some r) : k.Stays o disk args x ↔
    (x.rc = 0 → ∀ sink, k.Within r.room (k.touched o r (x.buffer (16 + k.payloadSz r.room)) sink)) := by
  constructor
  · intro h hrc sink
    obtain ⟨t, hrun, ht⟩ := (ends_iff_runs _ _ _).mp (ends_subcommand_touched k o disk args x r hr hrc sink)
    exact h sink t _ hrun ht r hr
  · intro h sink t u hrun ht r' hr'
    obtain rfl : r = r' := Option.some.inj (hr.symm.trans hr')
    obtain rfl | ⟨hrc, rfl⟩ := ends_subcommand k o disk args x r hr sink u ((ends_iff_runs _ _ _).mpr ⟨t, hrun, ht⟩)
    · exact untouched_within k r.room
    · exact h hrc sink

end Runs

/-- The decoders of the tunnel stay in their buffers exactly for the successful replies
whose counts and length fit the request, besides all failed ones. -/
theorem list_stays_iff (k : ListCommand) (o : ByteOrder) (disk : Disk) (args : List String) (x : VendorReply) :
    k.Stays o disk args x ↔ ∀ r, k.request o disk args = some r → x.rc = 0 →
      innerReturnCode o (x.buffer (16 + k.payloadSz r.room)) = 0 →
        k.Fits o r (x.buffer (16 + k.payloadSz r.room)) := by
  constructor
  · intro h r hr hrc
    exact (touched_within_iff k o r _).mp ((stays_iff_touched k o disk args x r hr).mp h hrc)
  · intro h
    cases hr : k.request o disk args with
    | none => exact fun sink t u _ _ r hr' => nomatch hr.symm.trans hr'
    | some r =>
      refine (stays_iff_touched k o disk args x r hr).mpr fun hrc => ?_
      exact (touched_within_iff k o r _).mpr (h r hr hrc)

/- One entry is asked for and two are reported: the second is read behind both buffers. -/
theorem second_ld_outside : ¬ListCommand.fmGetLdAlloc.Stays .little (fun _ => none) ["--limit", "1"]
    ⟨0, zeros 16 ++ [0, 0, 0, 2]⟩ := by
  have hr : ListCommand.fmGetLdAlloc.request .little (fun _ => none) ["--limit", "1"] =
      some ⟨.sdb 0 0x01 0x54 2 [0, 1], 1, false⟩ := by rfl
  intro h
  have hwithin := (touched_within_iff _ _ _ _).mp ((stays_iff_touched _ _ _ _ _ _ hr).mp h rfl)
  have hle : 2 ≤ 1 := (hwithin (by decide)).entries
  omega

end LibCxlmi.Tools
