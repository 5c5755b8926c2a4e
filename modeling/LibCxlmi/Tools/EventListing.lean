import LibCxlmi.Contract.ClampedLists
import LibCxlmi.Contract.ReturnedData
import LibCxlmi.Tools.Events
import LibCxlmi.Word.Layout

/-!
# What an event listing prints

The device answers every request for a log in the same way, since nothing is
cleared: one round prints the records that fit into a reply, and there is a next
round exactly if there are more. A round prints no more than 20 records, for which
the host has room. So the listing is complete, and ends, if the whole log fits into
one reply and into that room. The tunnelled one reads the count in the order of the host.
-/

namespace LibCxlmi.Tools
open LibCxlmi.Word LibCxlmi.Cci LibCxlmi.Transport LibCxlmi.Commands LibCxlmi.Contract LibCxlmi.Dialogue

inductive EventLister where
  | mailbox
  | sdbTunnel
  deriving DecidableEq, Repr

def EventLister.run (o : ByteOrder) (ep : Endpoint) (rounds : ℕ) : EventLister → List String → EventTool End
  | .mailbox => cmdGetEventRecords o ep rounds
  | .sdbTunnel => sdbTunnelGetEventRecords o ep rounds

/-- The log that accepted arguments ask for. -/
def EventLister.log : EventLister → List String → Option Byte
  | .mailbox, args => getEventRecordsLog args
  | .sdbTunnel, args => (sdbEventArgs args).map Prod.snd

def printedRecord : Event EventCall EventCall.Answer → Option EventRecord
  | ⟨.print r, _⟩ => some r
  | _ => none

/-- The records a run prints. -/
def printed (t : History EventCall EventCall.Answer) : List EventRecord := t.filterMap printedRecord

theorem printed_append (t u : History EventCall EventCall.Answer) : printed (t ++ u) = printed t ++ printed u :=
  List.filterMap_append

/-- The run ends with 0 and has printed the records of `log`, each of them once. -/
def ListsAll (x : History EventCall EventCall.Answer × End) (log : List (Vec 128)) : Prop :=
  x.2 = .returned 0 ∧ printed x.1 = log.map fun r => eventRecord .little r.val

/- A big-endian host sees 256 times the count, of which 20 are left. -/
def ReadAlike (o : ByteOrder) (log : List (Vec 128)) : Prop :=
  o = .little ∨ log = [] ∨
    log.length = sdbMaxEventRecords ∧ ∀ r ∈ log, hostEventRecord .big r.val = hostEventRecord .little r.val

/-! ### The loop -/

section Loop
variable (d : EventDevice)

/-- Against `d`, from any point on, a round prints `rs` and leads to `next`. -/
def RoundPrints (round : EventTool (Unit ⊕ End)) (rs : List EventRecord) (next : Unit ⊕ End) : Prop :=
  ∀ h, printed (round.play (fun _ => d.answer) h).1 = rs ∧ (round.play (fun _ => d.answer) h).2 = next

theorem play_printRecords (rs : List EventRecord) (h : History EventCall EventCall.Answer) :
    printed ((printRecords rs).play (fun _ => d.answer) h).1 = rs := by
  induction rs generalizing h with
  | nil => rfl
  | cons r rs ih =>
    rw [printRecords, play_bind, printed_append, ih]
    rfl

theorem roundPrints_reply (rs : List EventRecord) (next : Unit ⊕ End) (q : EventCall)
    (hq : printedRecord ⟨q, d.answer q⟩ = none)
    (k : q.Answer → EventTool (Unit ⊕ End))
    (hk : k (d.answer q) = do
      printRecords rs
      return next) :
    RoundPrints d (ask q >>= k) rs next := by
  intro h
  rw [play_bind]
  change printed ([⟨q, d.answer q⟩] ++ ((k (d.answer q)).play (fun _ => d.answer) (h ++ [⟨q, d.answer q⟩])).1) = rs ∧
    ((k (d.answer q)).play (fun _ => d.answer) (h ++ [⟨q, d.answer q⟩])).2 = _
  rw [hk, play_bind, printed_append, printed_append, play_printRecords]
  refine ⟨?_, rfl⟩
  rw [printed, List.filterMap_cons_none hq]
  exact List.append_nil rs

theorem eventLoop_running (round : EventTool (Unit ⊕ End)) (rs : List EventRecord)
    (hround : RoundPrints d round rs (.inl ())) (rounds : ℕ) (h : History EventCall EventCall.Answer) :
    ((eventLoop round rounds).play (fun _ => d.answer) h).2 = .running := by
  have hloop : ((iterate (fun _ => round) rounds ()).play (fun _ => d.answer) h).2 = none := by
    induction rounds generalizing h with
    | zero => rfl
    | succ rounds ih =>
      rw [play_iterate_next _ _ _ _ () h (hround h).2]
      exact ih _
  rw [eventLoop, play_bind, hloop]
  rfl

theorem eventLoop_ends (round : EventTool (Unit ⊕ End)) (rs : List EventRecord) (e : End)
    (hround : RoundPrints d round rs (.inr e)) (rounds : ℕ) (h : History EventCall EventCall.Answer) :
    ((eventLoop round (rounds + 1)).play (fun _ => d.answer) h).2 = e ∧
      printed ((eventLoop round (rounds + 1)).play (fun _ => d.answer) h).1 = rs := by
  rw [eventLoop, play_bind, play_iterate_last _ _ _ _ _ h (hround h).2]
  refine ⟨rfl, ?_⟩
  rw [printed_append, (hround h).1]
  exact List.append_nil rs

theorem eventLoop_lists (round : EventTool (Unit ⊕ End)) (rs : List EventRecord) (next : Unit ⊕ End)
    (hround : RoundPrints d round rs next) (log : List (Vec 128)) (h : History EventCall EventCall.Answer) :
    (∃ rounds, ListsAll ((eventLoop round rounds).play (fun _ => d.answer) h) log) ↔
      next = .inr (.returned 0) ∧ rs = log.map fun r => eventRecord .little r.val := by
  cases next with
  | inl u =>
    refine iff_of_false ?_ fun hc => nomatch hc.1
    rintro ⟨rounds, hend, -⟩
    rw [eventLoop_running d round rs hround] at hend
    cases hend
  | inr e =>
    constructor
    · rintro ⟨rounds, hend, hprinted⟩
      cases rounds with
      | zero => cases hend
      | succ n =>
        obtain ⟨hlast, hrs⟩ := eventLoop_ends d round rs e hround n h
        exact ⟨congrArg Sum.inr (hlast.symm.trans hend), hrs.symm.trans hprinted⟩
    · rintro ⟨he, hrs⟩
      obtain ⟨hlast, hprinted⟩ := eventLoop_ends d round rs e hround 0 h
      exact ⟨1, hlast.trans (Sum.inr.inj he), hprinted.trans hrs⟩

/-- What a round leads to by the flag. -/
def afterFlag (more : Bool) : Unit ⊕ End := if more = true then .inl () else .inr (.returned 0)

theorem afterFlag_eq (more : Bool) : afterFlag more = .inr (.returned 0) ↔ more = false := by
  cases more with
  | true => exact iff_of_false nofun nofun
  | false => exact iff_of_true rfl rfl

/- If a reply holds more than 20 records, then so does the log, and the round that would
end the listing prints 20 at most. -/
theorem long_log_unlisted (eventLog : Byte) (hlong : ¬(d.sends eventLog).length ≤ 20) (round : EventTool (Unit ⊕ End))
    (hround : ∃ rs next, RoundPrints d round rs next ∧ rs.length ≤ 20) (alike : Prop)
    (h : History EventCall EventCall.Answer) :
    (∃ rounds, ListsAll ((eventLoop round rounds).play (fun _ => d.answer) h) (d.logs eventLog)) ↔
      (d.logs eventLog).length ≤ min d.room 20 ∧ alike := by
  obtain ⟨rs, next, hprints, hshort⟩ := hround
  have hlog : 20 < (d.logs eventLog).length := (Nat.lt_of_not_le hlong).trans_le (List.length_take_le' _ _)
  rw [eventLoop_lists d round rs next hprints]
  refine iff_of_false ?_ fun hc => by omega
  rintro ⟨-, heq⟩
  rw [heq, List.length_map] at hshort
  omega

end Loop

/-! ### The reply -/

section Reply
variable {β : Type}

theorem range_slices {k : ℕ} (xs : List (Vec k)) (f : Bytes → β) :
    ((List.range xs.length).map fun i => f (slice (xs.flatMap Subtype.val) (i * k) k)) = xs.map fun x => f x.val := by
  induction xs with
  | nil => rfl
  | cons x xs ih =>
    rw [List.length_cons, List.range_succ_eq_map, List.map_cons, List.map_map, List.map_cons, List.flatMap_cons, ← ih]
    congr 1
    · rw [Nat.zero_mul, slice_append _ _ _ _ (by rw [vec_length, Nat.zero_add]), slice_self _ _ x.property]
    · refine List.map_congr_left fun i _ => ?_
      rw [Function.comp_apply, Nat.succ_mul, slice_append_right _ _ _ _ (by rw [vec_length]; omega), vec_length,
        Nat.add_sub_cancel]

variable (d : EventDevice) (eventLog : Byte)

def EventDevice.head : Bytes :=
  [d.flags eventLog, 0] ++ d.overflowInfo.val ++ leBytes 2 (d.sends eventLog).length ++ zeros 10

theorem reply_eq : d.reply eventLog = d.head eventLog ++ (d.sends eventLog).flatMap Subtype.val := rfl

theorem head_length : (d.head eventLog).length = 32 := by
  simp only [EventDevice.head, List.length_append, vec_length, leBytes_length, zeros_length, List.length_cons,
    List.length_nil]

theorem head_count : slice (d.head eventLog) 20 2 = leBytes 2 (d.sends eventLog).length := by
  have hfirst : ([d.flags eventLog, 0] ++ d.overflowInfo.val).length = 20 := by
    rw [List.length_append, vec_length]
    rfl
  rw [EventDevice.head, slice_append _ _ _ _ (by rw [List.length_append, hfirst, leBytes_length]),
    slice_append_right _ _ _ _ (Nat.le_of_eq hfirst), hfirst, slice_self _ _ (leBytes_length _ _)]

theorem reply_record (i : ℕ) :
    slice (d.reply eventLog) (32 + i * 128) 128 = slice ((d.sends eventLog).flatMap Subtype.val) (i * 128) 128 := by
  rw [reply_eq, slice_append_right _ _ _ _ (by rw [head_length]; omega), head_length, Nat.add_sub_cancel_left]

theorem reply_count : slice (d.reply eventLog) 20 2 = leBytes 2 (d.sends eventLog).length := by
  rw [reply_eq, slice_append _ _ _ _ (by rw [head_length]; decide), head_count]

theorem reply_length : (d.reply eventLog).length = 32 + (d.sends eventLog).length * 128 := by
  rw [reply_eq, List.length_append, head_length, flatMap_length _ _ 128 fun x => x.property]

theorem moreEvents_flags : moreEvents (d.flags eventLog) = decide (d.room < (d.logs eventLog).length) := by
  rw [EventDevice.flags]
  cases d.overflow <;> cases decide (d.room < (d.logs eventLog).length) <;> rfl

theorem more_iff : moreEvents (d.flags eventLog) = false ↔ (d.logs eventLog).length ≤ d.room := by
  rw [moreEvents_flags, decide_eq_false_iff_not, Nat.not_lt]

theorem sends_all (h : (d.logs eventLog).length ≤ d.room) : d.sends eventLog = d.logs eventLog :=
  List.take_of_length_le h

/- Where no more than 20 records come, the second bound is kept by a log that fits. -/
theorem fits_iff (hle : (d.sends eventLog).length ≤ 20) :
    (d.logs eventLog).length ≤ min d.room 20 ↔ (d.logs eventLog).length ≤ d.room := by
  refine ⟨fun h => h.trans (Nat.min_le_left _ _), fun h => Nat.le_min.mpr ⟨h, ?_⟩⟩
  rwa [sends_all d eventLog h] at hle

end Reply

/-! ### Rounds -/

section Rounds
variable (o : ByteOrder) (ep : Endpoint) (hep : IsMailbox ep) (d : EventDevice)

theorem eventRecord_order : eventRecord o = eventRecord .little := by
  cases o with
  | little => rfl
  | big => exact eventRecord_big

theorem getEventRecords_goesOut (eventLog : Byte) : GoesOut (getEventRecords eventLog) o [eventLog] :=
  ⟨rfl, rfl, rfl, rfl⟩

/- The tool has room for 64 records, the library for 20. -/
include hep in
theorem getEventRecords_value (eventLog : Byte) (r : Reply GetEventRecordsRsp)
    (hrun : (getEventRecords eventLog).run o (mailboxEnv (.done 0 (d.reply eventLog))) ep none = some r) :
    ∃ v, r.value = some v ∧ v.records.length ≤ 20 := by
  obtain ⟨s, hleaves, hdecoded⟩ := goesOut_run o ep hep _ _ (d.reply eventLog) (getEventRecords_goesOut o eventLog) 2592
    rfl (by decide)
  obtain ⟨v, hv, rfl⟩ := Option.map_eq_some_iff.mp (hdecoded.symm.trans hrun)
  obtain ⟨rs, hrs, rfl⟩ := Option.map_eq_some_iff.mp hv
  have hlen : (payload s.rsp).length = 2592 := by rw [hleaves.payload, fillBuf_length _ _ hleaves.fits]
  refine ⟨_, rfl, ?_⟩
  unfold records at hrs
  split_ifs at hrs with hin
  obtain rfl := Option.some.inj hrs
  rw [hlen] at hin
  rw [List.length_map, List.length_range]
  omega

include hep in
theorem getEventRecordsRound_short (eventLog : Byte) : ∃ rs next,
    RoundPrints d (getEventRecordsRound o ep eventLog) rs next ∧ rs.length ≤ 20 := by
  cases hrun : (getEventRecords eventLog).run o (mailboxEnv (.done 0 (d.reply eventLog))) ep none with
  | none =>
    refine ⟨[], .inr .undefined, roundPrints_reply d _ _ (.getEventRecords eventLog) rfl _ ?_, Nat.zero_le _⟩
    dsimp only [EventDevice.answer]
    rw [hrun]
    rfl
  | some r =>
    obtain ⟨v, hvalue, hle⟩ := getEventRecords_value o ep hep d eventLog r hrun
    refine ⟨v.records.take (min v.recordCount maxEventRecords), afterFlag (moreEvents v.flags),
      roundPrints_reply d _ _ (.getEventRecords eventLog) rfl _ ?_, (List.length_take_le' _ _).trans hle⟩
    dsimp only [EventDevice.answer]
    rw [hrun]
    dsimp only
    rw [hvalue]
    rfl

include hep in
theorem getEventRecords_handed (eventLog : Byte) (hle : (d.sends eventLog).length ≤ 20) : ∃ r v,
    (getEventRecords eventLog).run o (mailboxEnv (.done 0 (d.reply eventLog))) ep none = some r ∧ r.value = some v ∧
      v.flags = d.flags eventLog ∧ v.recordCount = (d.sends eventLog).length ∧
      v.records = (d.sends eventLog).map fun x => eventRecord .little x.val := by
  have hlen := reply_length d eventLog
  obtain ⟨s, hleaves, hrun⟩ := goesOut_run o ep hep _ _ (d.reply eventLog) (getEventRecords_goesOut o eventLog) 2592 rfl
    (by decide)
  rw [List.take_of_length_le (by omega)] at hleaves
  have hcount : getLe o 2 (payload s.rsp) 20 = (d.sends eventLog).length := by
    rw [getLe_eq, slice_leaves _ s.rsp _ _ _ hleaves, reply_count, leVal_leBytes_of_lt _ _ (by omega)]
  have hrecords : records (payload s.rsp) 32 128 (d.sends eventLog).length (eventRecord o) =
      some ((d.sends eventLog).map fun x => eventRecord .little x.val) := by
    have hfit : 32 + (d.sends eventLog).length * 128 ≤ 2592 := by omega
    rw [records_leaves s.rsp _ _ hleaves 32 128 _ _ (by omega) hfit, entriesAt, eventRecord_order]
    simp only [reply_record]
    rw [range_slices]
  have hdecode : (getEventRecords eventLog).decode o s.rsp = some ⟨byteAt (payload s.rsp) 0,
      getLe o 2 (payload s.rsp) 2, getLe o 8 (payload s.rsp) 4, getLe o 8 (payload s.rsp) 12, (d.sends eventLog).length,
      (d.sends eventLog).map fun x => eventRecord .little x.val⟩ := by
    dsimp only [getEventRecords, request]
    rw [hcount, hrecords]
    rfl
  rw [hdecode] at hrun
  exact ⟨_, _, hrun, rfl, byteAt_leaves _ s.rsp _ 0 hleaves, rfl, rfl⟩

include hep in
theorem getEventRecordsRound_prints (eventLog : Byte) (hle : (d.sends eventLog).length ≤ 20) :
    RoundPrints d (getEventRecordsRound o ep eventLog)
      ((d.sends eventLog).map fun x => eventRecord .little x.val) (afterFlag (moreEvents (d.flags eventLog))) := by
  obtain ⟨r, v, hrun, hvalue, hflags, hcount, hrecords⟩ := getEventRecords_handed o ep hep d eventLog hle
  refine roundPrints_reply d _ _ (.getEventRecords eventLog) rfl _ ?_
  dsimp only [EventDevice.answer]
  rw [hrun]
  dsimp only
  rw [hvalue]
  dsimp only
  have hall : v.records.take (min v.recordCount maxEventRecords) = v.records := by
    refine List.take_of_length_le ?_
    rw [hcount, hrecords, List.length_map, Nat.min_eq_left (hle.trans (by decide))]
  rw [hall, hrecords, hflags]
  rfl

/- What the tool finds in its buffer: the reply, and zeros behind it. -/
theorem sdbReply_slice (eventLog : Byte) (i n : ℕ) :
    slice (d.sdbReply eventLog) (16 + i) n = slice (d.reply eventLog) i n := by
  have hhead : (d.headers.val ++ [0, 0] ++ d.extStatus.val).length = 16 := by
    simp only [List.length_append, vec_length, List.length_cons, List.length_nil]
  rw [EventDevice.sdbReply, slice_append_right _ _ _ _ (by omega), hhead, Nat.add_sub_cancel_left]

theorem sdbReply_length (eventLog : Byte) :
    (d.sdbReply eventLog).length = 48 + (d.sends eventLog).length * 128 := by
  simp only [EventDevice.sdbReply, List.length_append, vec_length, reply_length, List.length_cons, List.length_nil]
  omega

theorem sdbReply_returnCode (eventLog : Byte) : slice (d.sdbReply eventLog) 12 2 = [0, 0] := by
  have hfirst : (d.headers.val ++ [0, 0]).length = 14 := by
    rw [List.length_append, vec_length]
    rfl
  rw [EventDevice.sdbReply, slice_append _ _ _ _ (by rw [List.length_append, hfirst, vec_length]; decide),
    slice_append _ _ _ _ (Nat.le_of_eq hfirst.symm), slice_append_right _ _ _ _ (by rw [vec_length]), vec_length]
  rfl

def sdbCount (count : ℕ) : ℕ := min (loadWord o (leBytes 2 count)) sdbMaxEventRecords

theorem sdbGetEventRecordsRound_short (port eventLog : Byte) : ∃ rs next,
    RoundPrints d (sdbGetEventRecordsRound o ep port eventLog) rs next ∧ rs.length ≤ 20 := by
  let size := 16 + 32 + sdbMaxEventRecords * 128
  let a := libraryReply o ep (sdbEventMessage port eventLog) size (.done 0 (d.sdbReply eventLog))
  let rsp := fillBuf size (a.data.take size)
  let shown := (List.range (min (loadWord o (slice rsp 36 2)) sdbMaxEventRecords)).map fun k =>
    hostEventRecord o (slice rsp (48 + k * 128) 128)
  have hshown : shown.length ≤ 20 := by
    rw [List.length_map, List.length_range]
    exact Nat.min_le_right _ _
  by_cases hrc : a.rc ≠ 0
  · exact ⟨[], .inr (.returned a.rc),
      roundPrints_reply d _ _ (.vendor (sdbEventMessage port eventLog) size) rfl _ (if_pos hrc), Nat.zero_le _⟩
  · by_cases hcode : innerReturnCode o rsp ≠ 0
    · exact ⟨[], .inr (.returned (innerReturnCode o rsp)), roundPrints_reply d _ _
        (.vendor (sdbEventMessage port eventLog) size) rfl _ ((if_neg hrc).trans (if_pos hcode)), Nat.zero_le _⟩
    · exact ⟨shown, afterFlag (moreEvents (byteAt rsp 16)), roundPrints_reply d _ _
        (.vendor (sdbEventMessage port eventLog) size) rfl _ ((if_neg hrc).trans (if_neg hcode)), hshown⟩

include hep in
theorem sdbGetEventRecordsRound_prints (port eventLog : Byte) (hle : (d.sends eventLog).length ≤ 20) :
    RoundPrints d (sdbGetEventRecordsRound o ep port eventLog)
      ((List.range (sdbCount o (d.sends eventLog).length)).map fun i =>
        hostEventRecord o (slice ((d.sends eventLog).flatMap Subtype.val) (i * 128) 128))
      (afterFlag (moreEvents (d.flags eventLog))) := by
  have hlen := sdbReply_length d eventLog
  have hreply : libraryReply o ep (sdbEventMessage port eventLog) 2608 (.done 0 (d.sdbReply eventLog)) =
      ⟨0, fillBuf 2608 (d.sdbReply eventLog)⟩ := by
    rw [libraryReply_eq o ep hep _ 2608 _ (by decide) (by decide)]
    dsimp only
    rw [if_neg (by decide), List.take_of_length_le (by omega)]
  have hslice : ∀ i n, slice (fillBuf 2608 ((fillBuf 2608 (d.sdbReply eventLog)).take 2608)) i n =
      slice (d.sdbReply eventLog) i n := fun i n => by
    rw [fillBuf_take _ _ (by omega), slice_fillBuf, slice_fillBuf]
  have hflags : byteAt (fillBuf 2608 ((fillBuf 2608 (d.sdbReply eventLog)).take 2608)) 16 = d.flags eventLog := by
    refine (List.cons.inj ((hslice 16 1).trans (sdbReply_slice d eventLog 0 1))).1.trans ?_
    rw [reply_eq]
    rfl
  have hcode : innerReturnCode o (fillBuf 2608 ((fillBuf 2608 (d.sdbReply eventLog)).take 2608)) = 0 := by
    rw [innerReturnCode, Cci.returnCode, slice_drop, hslice, sdbReply_returnCode]
    cases o with
    | little => rfl
    | big => rfl
  have hcount : slice (d.sdbReply eventLog) 36 2 = leBytes 2 (d.sends eventLog).length :=
    (sdbReply_slice d eventLog 20 2).trans (reply_count d eventLog)
  have hrecord : ∀ i, slice (d.sdbReply eventLog) (48 + i * 128) 128 =
      slice ((d.sends eventLog).flatMap Subtype.val) (i * 128) 128 := fun i => by
    rw [show 48 + i * 128 = 16 + (32 + i * 128) by omega, sdbReply_slice, reply_record]
  have hanswer : d.answer (.vendor (sdbEventMessage port eventLog) 2608) = .done 0 (d.sdbReply eventLog) := rfl
  refine roundPrints_reply d _ _ (.vendor (sdbEventMessage port eventLog) 2608) rfl _ ?_
  rw [hanswer]
  dsimp only [sdbMaxEventRecords, Nat.reduceMul, Nat.reduceAdd]
  rw [hreply]
  dsimp only
  rw [if_neg fun h => h rfl, if_neg fun h => h hcode, hflags, hslice, hcount]
  simp only [hslice, hrecord]
  rfl

end Rounds

/-! ### Listings -/

theorem listsAll_withBuffer (d : EventDevice) (n : ℕ) (loop : EventTool End) (log : List (Vec 128)) :
    ListsAll ((withBuffer n loop).play (fun _ => d.answer) []) log ↔
      ListsAll (loop.play (fun _ => d.answer) [⟨.calloc n, true⟩]) log := Iff.rfl

theorem hostEventRecord_little : hostEventRecord .little = eventRecord .little := by
  funext r
  simp only [hostEventRecord, eventRecord, getLe_eq, loadWord]

theorem sdbCount_little (n : ℕ) (hn : n ≤ 20) : sdbCount .little n = n := by
  rw [sdbCount, loadWord, leVal_leBytes_of_lt _ _ (by omega)]
  exact Nat.min_eq_left hn

theorem sdbCount_big (n : ℕ) (hn : n ≤ 20) : sdbCount .big n = if n = 0 then 0 else 20 :=
  (by decide : ∀ n < 21, sdbCount .big n = if n = 0 then 0 else 20) n (by omega)

/- With the count of a big-endian host the list is too long, unless it is empty or full. -/
theorem readAlike_iff (o : ByteOrder) (xs : List (Vec 128)) (hxs : xs.length ≤ 20) :
    ((List.range (sdbCount o xs.length)).map fun i =>
        hostEventRecord o (slice (xs.flatMap Subtype.val) (i * 128) 128)) =
      (xs.map fun r => eventRecord .little r.val) ↔ ReadAlike o xs := by
  rw [← hostEventRecord_little]
  cases o with
  | little =>
    refine iff_of_true ?_ (.inl rfl)
    rw [sdbCount_little _ hxs, range_slices]
  | big =>
    by_cases hnil : xs = []
    · subst hnil
      exact iff_of_true rfl (.inr (.inl rfl))
    · rw [sdbCount_big _ hxs, if_neg fun h => hnil (List.length_eq_zero_iff.mp h)]
      constructor
      · intro heq
        have hlen : 20 = xs.length := by
          have hcongr := congrArg List.length heq
          rwa [List.length_map, List.length_range, List.length_map] at hcongr
        rw [hlen, range_slices] at heq
        exact .inr (.inr ⟨hlen.symm, List.map_inj_left.mp heq⟩)
      · rintro (h | h | ⟨hlen, hrec⟩)
        · cases h
        · exact absurd h hnil
        · rw [show 20 = xs.length from hlen.symm, range_slices]
          exact List.map_inj_left.mpr hrec

/-- A log is listed completely, and the listing ends, exactly if the log fits into one
reply and into the 20 records the host has room for, and the host reads it alike where
it comes through the tunnel. -/
theorem event_listing_iff (c : EventLister) (o : ByteOrder) (ep : Endpoint) (hep : IsMailbox ep) (d : EventDevice)
    (args : List String) (eventLog : Byte) (hargs : c.log args = some eventLog) :
    (∃ rounds, ListsAll ((c.run o ep rounds args).play (fun _ => d.answer) []) (d.logs eventLog)) ↔
      (d.logs eventLog).length ≤ min d.room 20 ∧ (c = .sdbTunnel → ReadAlike o (d.logs eventLog)) := by
  cases c with
  | mailbox =>
    have hparsed : getEventRecordsLog args = some eventLog := hargs
    simp only [EventLister.run, cmdGetEventRecords, hparsed, listsAll_withBuffer]
    by_cases hle : (d.sends eventLog).length ≤ 20
    · rw [eventLoop_lists d _ _ _ (getEventRecordsRound_prints o ep hep d eventLog hle), afterFlag_eq, more_iff,
        fits_iff d eventLog hle]
      refine and_congr_right fun hfits => iff_of_true ?_ fun h => nomatch h
      rw [sends_all d eventLog hfits]
    · exact long_log_unlisted d eventLog hle _ (getEventRecordsRound_short o ep hep d eventLog) _ _
  | sdbTunnel =>
    obtain ⟨⟨port, log'⟩, hparsed, rfl⟩ := Option.map_eq_some_iff.mp hargs
    simp only [EventLister.run, sdbTunnelGetEventRecords, hparsed, listsAll_withBuffer]
    by_cases hle : (d.sends log').length ≤ 20
    · rw [eventLoop_lists d _ _ _ (sdbGetEventRecordsRound_prints o ep hep d port log' hle), afterFlag_eq, more_iff,
        fits_iff d log' hle]
      refine and_congr_right fun hfits => ?_
      rw [← sends_all d log' hfits, readAlike_iff o _ hle]
      exact true_imp_iff.symm
    · exact long_log_unlisted d log' hle _ (sdbGetEventRecordsRound_short o ep d port log') _ _

def zeroVec (n : ℕ) : Vec n := ⟨zeros n, zeros_length n⟩

/- Logs of `n` blank records, of which `room` fit into a reply. -/
def blankEvents (n room : ℕ) : EventDevice :=
  ⟨fun _ => List.replicate n (zeroVec 128), room, false, zeroVec 18, zeroVec 12, zeroVec 2⟩

theorem memdevMailbox_isMailbox : IsMailbox memdevMailbox := ⟨rfl, by decide⟩

theorem oneEvent_listed :
    (∃ rounds, ListsAll ((cmdGetEventRecords .little memdevMailbox rounds ["--log", "info"]).play
        (fun _ => (blankEvents 1 20).answer) []) [zeroVec 128]) ∧
      ∃ rounds, ListsAll ((sdbTunnelGetEventRecords .little memdevMailbox rounds ["--log", "info"]).play
        (fun _ => (blankEvents 1 20).answer) []) [zeroVec 128] := by
  constructor
  · exact (event_listing_iff .mailbox .little memdevMailbox memdevMailbox_isMailbox (blankEvents 1 20)
      ["--log", "info"] 0 (by decide)).mpr ⟨by decide, fun h => nomatch h⟩
  · exact (event_listing_iff .sdbTunnel .little memdevMailbox memdevMailbox_isMailbox (blankEvents 1 20)
      ["--log", "info"] 0 (by decide)).mpr ⟨by decide, fun _ => .inl rfl⟩

/-- Two records of which one fits into a reply: the first is asked for and printed
again and again. -/
theorem two_events_never_end :
    (∀ rounds, ((cmdGetEventRecords .little memdevMailbox rounds ["--log", "info"]).play
        (fun _ => (blankEvents 2 1).answer) []).2 = .running) ∧
      ∀ rounds, ((sdbTunnelGetEventRecords .little memdevMailbox rounds ["--log", "info"]).play
        (fun _ => (blankEvents 2 1).answer) []).2 = .running := by
  have hmore : moreEvents ((blankEvents 2 1).flags 0) = true := by decide
  constructor
  · intro rounds
    have hround := getEventRecordsRound_prints .little memdevMailbox memdevMailbox_isMailbox (blankEvents 2 1)
      0 (by decide)
    rw [hmore] at hround
    exact eventLoop_running (blankEvents 2 1) _ _ hround rounds [⟨.calloc (32 + maxEventRecords * 128), true⟩]
  · intro rounds
    have hround := sdbGetEventRecordsRound_prints .little memdevMailbox memdevMailbox_isMailbox (blankEvents 2 1)
      0 0 (by decide)
    rw [hmore] at hround
    exact eventLoop_running (blankEvents 2 1) _ _ hround rounds
      [⟨.calloc (16 + 32 + sdbMaxEventRecords * 128), true⟩]

end LibCxlmi.Tools
