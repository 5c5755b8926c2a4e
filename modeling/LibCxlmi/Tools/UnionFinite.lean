import LibCxlmi.Tools.UnionTime

/-!
# When a union download comes to an end

A device is the set of the command histories that are possible with it. With a clock
that keeps up, the tool gives up on a device exactly if there is a bound on how often
it changes its state, asks for another range than before and says that it is ready to
finish; one that is ready to finish for ever is asked to finish for ever.
-/

namespace LibCxlmi.Tools
open LibCxlmi.Word LibCxlmi.Dialogue

/-! ### What a device does -/

def stateChanges (rs : List FwdownloadOutput) : ℕ := (rs.zip rs.tail).countP fun p => changesState p.1 p.2

/-- How often data is asked for, right after other data was. -/
def rangesInTurn (rs : List FwdownloadOutput) : ℕ := (rs.zip rs.tail).countP fun p => turnsRange p.1 p.2

def readyAnswers (rs : List FwdownloadOutput) : ℕ := rs.countP FwdownloadOutput.isReady

structure Settles (n : ℕ) (rs : List FwdownloadOutput) : Prop where
  states : stateChanges rs ≤ n
  ranges : rangesInTurn rs ≤ n
  ready : readyAnswers rs ≤ n

theorem movesFrom_le (prev : FwdownloadOutput) (rs : List FwdownloadOutput) :
    movesFrom (some prev) rs ≤ stateChanges (prev :: rs) + rangesInTurn (prev :: rs) + readyAnswers rs := by
  induction rs generalizing prev with
  | nil => exact Nat.zero_le _
  | cons rsp rs ih =>
    have hrest := ih rsp
    have hmove : (movesOn (some prev) rsp).toNat ≤
        (changesState prev rsp).toNat + (turnsRange prev rsp).toNat + rsp.isReady.toNat := by
      rw [movesOn]
      cases changesState prev rsp <;> cases turnsRange prev rsp <;> cases rsp.isReady <;> decide
    have hcount : ∀ b : Bool, (if b = true then 1 else 0) = b.toNat := fun b => by cases b <;> rfl
    simp only [stateChanges, rangesInTurn, readyAnswers, List.tail_cons, List.zip_cons_cons, List.countP_cons, hcount]
      at hrest ⊢
    rw [movesFrom]
    omega

theorem moves_settled (n : ℕ) (rs : List FwdownloadOutput) (h : Settles n rs) : movesFrom none rs ≤ 3 * n + 1 := by
  cases rs with
  | nil => exact Nat.zero_le _
  | cons rsp rs =>
    have hstates := h.states
    have hranges := h.ranges
    have hready : readyAnswers rs ≤ n := (List.sublist_cons_self rsp rs).countP_le.trans h.ready
    have hrest := movesFrom_le rsp rs
    rw [movesFrom, movesOn, Bool.toNat_true]
    omega

theorem settles_length (rs : List FwdownloadOutput) : Settles rs.length rs := by
  have hzip : (rs.zip rs.tail).length ≤ rs.length := by
    rw [List.length_zip]
    exact Nat.min_le_left _ _
  exact ⟨List.countP_le_length.trans hzip, List.countP_le_length.trans hzip, List.countP_le_length⟩

theorem responses_le (o : ByteOrder) (t : Log) : (responses o t).length ≤ commandsOf t := by
  rw [responses, List.length_map]
  exact List.length_filterMap_le fwExchange (vendorCalls t)

/-- In every run against the device, whatever the C library and the clock answer. -/
theorem union_finite_iff (o : ByteOrder) (disk : Disk) (params : String × UnionImage × Option UnionPartition)
    (device : Calls → Prop) :
    (∃ bound, ∀ rounds t e, (vuDlunionDownload o disk params rounds).Runs t e → ClockOk none t →
      device (vendorCalls t) → commandsOf t ≤ bound ∧ (bound < rounds → ∃ rc, e = .returned rc)) ↔
    ∃ n, ∀ rounds t e, (vuDlunionDownload o disk params rounds).Runs t e → ClockOk none t →
      device (vendorCalls t) → Settles n (responses o t) := by
  constructor
  · rintro ⟨bound, hbound⟩
    refine ⟨bound, fun rounds t e hrun hclock hdevice => ?_⟩
    have hle := (responses_le o t).trans (hbound rounds t e hrun hclock hdevice).1
    obtain ⟨hstates, hranges, hready⟩ := settles_length (responses o t)
    exact ⟨hstates.trans hle, hranges.trans hle, hready.trans hle⟩
  · rintro ⟨n, hsettles⟩
    refine ⟨allowed (3 * n + 1) + 3, fun rounds t e hrun hclock hdevice => ?_⟩
    obtain ⟨hspent, hrunning, hundefined⟩ := commandsOf_le o disk params rounds t e hrun hclock
    have hmoves := moves_settled n _ (hsettles rounds t e hrun hclock hdevice)
    have hmono : allowed (movesFrom none (responses o t)) ≤ allowed (3 * n + 1) :=
      Nat.add_le_add_left (Nat.mul_le_mul_left _ hmoves) _
    refine ⟨by omega, fun hlate => ?_⟩
    cases e with
    | returned rc => exact ⟨rc, rfl⟩
    | undefined => exact absurd rfl hundefined
    | running =>
      have hmany := hrunning rfl
      omega

/-- A device that asks for the same data in every response. -/
def AsksAgain (o : ByteOrder) (range : U 32 × U 32 × U 32) (xs : Calls) : Prop :=
  ∀ p ∈ fwExchanges xs, (responseOf o p.2).state = 1 ∧ (responseOf o p.2).range = range

theorem settles_asksAgain (o : ByteOrder) (range : U 32 × U 32 × U 32) (t : Log)
    (h : AsksAgain o range (vendorCalls t)) : Settles 0 (responses o t) := by
  have hall : ∀ rsp ∈ responses o t, rsp.state = 1 ∧ rsp.range = range := by
    intro rsp hrsp
    obtain ⟨p, hp, rfl⟩ := List.mem_map.mp hrsp
    exact h p hp
  have hpair : ∀ p ∈ (responses o t).zip (responses o t).tail, p.1.state = p.2.state ∧ p.1.range = p.2.range := by
    intro p hp
    obtain ⟨hfirst, hsecond⟩ := List.of_mem_zip hp
    obtain ⟨hstate, hrange⟩ := hall p.1 hfirst
    obtain ⟨hstate', hrange'⟩ := hall p.2 (List.mem_of_mem_tail hsecond)
    exact ⟨hstate.trans hstate'.symm, hrange.trans hrange'.symm⟩
  refine ⟨Nat.le_of_eq (List.countP_eq_zero.mpr fun p hp => ?_), Nat.le_of_eq (List.countP_eq_zero.mpr fun p hp => ?_),
    Nat.le_of_eq (List.countP_eq_zero.mpr fun rsp hrsp => ?_)⟩
  · rw [changesState, decide_eq_true_eq]
    exact not_not.mpr (hpair p hp).1
  · rw [turnsRange, Bool.and_eq_true, decide_eq_true_eq]
    exact fun hturn => hturn.2 (hpair p hp).2
  · rw [FwdownloadOutput.isReady, (hall rsp hrsp).1]
    decide

theorem asksAgain_given_up : ∃ bound, ∀ rounds t e,
    (vuDlunionDownload .little (fun _ => some smallImage) ("union.bin", .union, none) rounds).Runs t e →
      ClockOk none t → AsksAgain .little (0, 0, 16) (vendorCalls t) →
        commandsOf t ≤ bound ∧ (bound < rounds → ∃ rc, e = .returned rc) :=
  (union_finite_iff .little (fun _ => some smallImage) ("union.bin", .union, none) (AsksAgain .little (0, 0, 16))).mpr
    ⟨0, fun _ t _ _ _ hdevice => settles_asksAgain .little (0, 0, 16) t hdevice⟩

/-! ### Devices with a clock -/

/-- A clock that shows the least time that can have passed. -/
def elapsedMs (h : Log) : ℕ := (h.map fun e => leastMs e.asked).sum

theorem elapsedMs_append (h : Log) (e : Event SysCall SysCall.Answer) :
    elapsedMs (h ++ [e]) = elapsedMs h + leastMs e.asked := by
  rw [elapsedMs, List.map_append, List.sum_append]
  rfl

theorem clockOk_answering (device : Calls → Message → VendorReply) {α : Type} (p : Tool α) (h : Log) (now : Option ℕ)
    (hnow : ∀ n ∈ now, n = elapsedMs h) : ClockOk now (p.play (answering elapsedMs device) h).1 := by
  induction p generalizing h now with
  | ret a => trivial
  | ask q k ih =>
    have hpassed : ∀ n ∈ now.map (· + leastMs q), n = elapsedMs h + leastMs q := by
      intro n hn
      obtain ⟨m, hm, rfl⟩ := Option.map_eq_some_iff.mp hn
      rw [hnow m hm]
    refine ⟨?_, ih _ _ _ fun n hn => ?_⟩
    · cases q with
      | clockGettime =>
        intro n hn
        rw [hnow n hn]
        exact ⟨Nat.le_refl _, Nat.lt_add_of_pos_right (by decide)⟩
      | _ => trivial
    · rw [elapsedMs_append]
      cases q with
      | clockGettime => exact (Option.some.inj hn).symm
      | _ => exact hpassed n hn

/-- Ready to finish for ever, however often it is told to. -/
def readyForever : ℕ → FwdownloadOutput
  | 0 => ⟨1, 7, 1, 0, 0, 0, 0, 116, 0, 116, 0⟩
  | _ => ⟨1, 7, 4, 0, 1, 0, 0, 0, 116, 116, 0⟩

theorem play_fwdownloadSend (o : ByteOrder) (clock : Log → ℕ) (script : ℕ → FwdownloadOutput) (a : FwAction)
    (sp off seq : U 32) (pl : Bytes) (h : Log) (hlen : pl.length ≤ 2016) :
    ((fwdownloadSend o a sp off seq pl).play (answering clock (scripted o script)) h).2 =
        (sendResult a sp 0 0 (script (fwExchanges (vendorCalls h)).length),
          script (fwExchanges (vendorCalls h)).length) ∧
      (fwExchanges (vendorCalls
        ((fwdownloadSend o a sp off seq pl).play (answering clock (scripted o script)) h).1)).length = 1 := by
  rw [fwdownloadSend, if_neg (Nat.not_lt.mpr hlen)]
  have hcount : ∀ x : VendorReply, fwExchanges (vendorCalls (h ++ [⟨.vendor (.vu vuunlock) 0, x⟩])) =
      fwExchanges (vendorCalls h) := by
    intro x
    rw [vendorCalls_append]
    exact fwExchanges_unlock _ _
  refine ⟨?_, rfl⟩
  change (sendResult a sp 0 0 (responseOf o ⟨0, (script (fwExchanges (vendorCalls (h ++ _))).length).encode o⟩),
    responseOf o ⟨0, (script (fwExchanges (vendorCalls (h ++ _))).length).encode o⟩) = _
  rw [responseOf_encode]
  rw [hcount]

def readySurroundings : Log → (q : SysCall) → q.Answer := answering elapsedMs (scripted .little readyForever)

def readySession : Session := ⟨readyForever 1, uint32Max, 0, some (0, 0, 116)⟩

theorem readyForever_later (h : Log) (hk : 1 ≤ (fwExchanges (vendorCalls h)).length) :
    readyForever (fwExchanges (vendorCalls h)).length = readyForever 1 := by
  obtain ⟨k, hk⟩ := Nat.exists_eq_add_of_le' hk
  rw [hk]
  rfl

theorem play_readyRound (h : Log) (hk : 1 ≤ (fwExchanges (vendorCalls h)).length) :
    ((unionRound .little smallImage 7 readySession).play readySurroundings h).2 = .inl readySession := by
  change ((fwdownloadSend .little .finish 7 0 0 [] >>= _).play readySurroundings h).2 = _
  rw [play_bind, readySurroundings, (play_fwdownloadSend .little elapsedMs readyForever .finish 7 0 0 [] h
    (Nat.zero_le _)).1, readyForever_later h hk]
  rfl

theorem play_readyRounds (n : ℕ) (h : Log) (hk : 1 ≤ (fwExchanges (vendorCalls h)).length) :
    ((iterate (unionRound .little smallImage 7) n readySession).play readySurroundings h).2 = none := by
  induction n generalizing h with
  | zero => rfl
  | succ n ih =>
    rw [play_iterate_next _ _ _ _ _ h (play_readyRound h hk)]
    refine ih _ ?_
    rw [vendorCalls_append, fwExchanges, List.filterMap_append, List.length_append]
    exact Nat.le_add_right_of_le hk

theorem play_readChunk (clock : Log → ℕ) (device : Calls → Message → VendorReply) {α : Type} (f : File) (pos len : ℕ)
    (failed next : Tool α) (h : Log) (hin : pos + len ≤ f.size) :
    ((checked (fseekSet pos) failed (checked (f.fread pos len) failed next)).play (answering clock device) h).2 =
      (next.play (answering clock device) (h ++ [⟨.fseekSet pos, true⟩] ++ [⟨.fread pos len, true⟩])).2 := by
  have hread : (true && decide (pos + len ≤ f.size)) = true := by rw [Bool.true_and, decide_eq_true hin]
  change ((if (true && decide (pos + len ≤ f.size)) = true then next else failed).play (answering clock device)
    (h ++ [⟨.fseekSet pos, true⟩] ++ [⟨.fread pos len, true⟩])).2 = _
  rw [if_pos hread]

theorem play_firstData (h : Log) (hk : (fwExchanges (vendorCalls h)).length = 1) :
    ((unionRound .little smallImage 7 ⟨readyForever 0, uint32Max, 0, none⟩).play readySurroundings h).2 =
      .inl readySession := by
  have hrange : rangeOk smallImage 0 116 = true := by decide
  have hprogress : ¬((readyForever 0).totalBytes ≠ size32 smallImage ∨
      (readyForever 0).totalBytes < (readyForever 0).receivedBytes) := by decide
  rw [unionRound, if_neg hprogress]
  change ((sendData .little smallImage 7 ⟨readyForever 0, uint32Max, 0, none⟩).play readySurroundings h).2 = _
  rw [sendData]
  dsimp only
  rw [if_neg (Option.some_ne_none _).symm, if_neg (fun hbad => Bool.false_ne_true (hbad.symm.trans hrange))]
  have hin : (readyForever 0).nextOffset.val + (readyForever 0).nextLength.val ≤ smallImage.size := by decide
  rw [readySurroundings, play_readChunk elapsedMs (scripted .little readyForever) smallImage _ _ _ _ h hin]
  have hcount : ∀ pos len,
      1 ≤ (fwExchanges (vendorCalls (h ++ [⟨.fseekSet pos, true⟩] ++ [⟨.fread pos len, true⟩]))).length := by
    intro pos len
    rw [vendorCalls_append, vendorCalls_append]
    change 1 ≤ (fwExchanges (vendorCalls h ++ [] ++ [])).length
    rw [List.append_nil, List.append_nil, hk]
  rw [sendAction, play_bind, (play_fwdownloadSend .little elapsedMs readyForever .data 7 _ _ _ _
    (by rw [File.read_length]; decide)).1, readyForever_later _ (hcount _ _)]
  rfl

theorem play_readySession (n : ℕ) (h : Log) (hk : (fwExchanges (vendorCalls h)).length = 1) :
    ((unionSession .little smallImage (n + 1) (readyForever 0)).play readySurroundings h).2 = .running := by
  have hrounds : ((iterate (unionRound .little smallImage 7) (n + 1) ⟨readyForever 0, uint32Max, 0, none⟩).play
      readySurroundings h).2 = none := by
    rw [play_iterate_next _ _ _ _ _ h (play_firstData h hk)]
    refine play_readyRounds n _ ?_
    rw [vendorCalls_append, fwExchanges, List.filterMap_append, List.length_append]
    exact Nat.le_add_right_of_le (Nat.le_of_eq hk.symm)
  have hopen : ¬((readyForever 0).sessionId = 0 ∨ fwState (readyForever 0).state ≠ .needData ∨
      (readyForever 0).totalBytes ≠ size32 smallImage) := by decide
  have hsid : (readyForever 0).sessionId = 7 := rfl
  rw [unionSession, if_neg hopen, play_bind, hsid, hrounds]
  rfl

theorem play_readyBegin (start : U 64) (h : Log) (hk : (fwExchanges (vendorCalls h)).length = 0) :
    ((beginRound .little smallImage .union none start).play readySurroundings h).2 = .inr (.inl (readyForever 0)) ∧
      (fwExchanges (vendorCalls
        (h ++ ((beginRound .little smallImage .union none start).play readySurroundings h).1))).length = 1 := by
  obtain ⟨hresult, hcount⟩ := play_fwdownloadSend .little elapsedMs readyForever (beginAction .union)
    (beginPartition .union none) (size32 smallImage) 2016 [] h (Nat.zero_le _)
  have hok : sendResult (beginAction .union) (beginPartition .union none) 0 0 (readyForever 0) = 0 := by decide
  rw [hk, hok] at hresult
  rw [beginRound, play_bind, readySurroundings, hresult]
  refine ⟨rfl, ?_⟩
  rw [vendorCalls_append, vendorCalls_append, fwExchanges, List.filterMap_append, List.filterMap_append,
    List.length_append, List.length_append]
  change (fwExchanges (vendorCalls h)).length + ((fwExchanges (vendorCalls _)).length + 0) = 1
  rw [hk, hcount]

/-- What comes before the first command. -/
def opening (ms : ℕ) : Log :=
  [⟨.fseekEnd, true⟩, ⟨.ftell, true⟩, ⟨.fseekSet 0, true⟩, ⟨.clockGettime, some ms⟩]

theorem play_opening (o : ByteOrder) (device : Calls → Message → VendorReply) (f : File) (image : UnionImage)
    (partition : Option UnionPartition) (n : ℕ) (rsp : FwdownloadOutput) (h116 : 116 ≤ f.size)
    (hbegin : ((beginRound o f image partition (nowMs 0)).play (answering elapsedMs device) (opening 0)).2 =
      .inr (.inl rsp)) :
    ((unionDownload o f image partition (n + 1)).play (answering elapsedMs device) []).2 =
      ((unionSession o f (n + 1) rsp).play (answering elapsedMs device) (opening 0 ++
        ((beginRound o f image partition (nowMs 0)).play (answering elapsedMs device) (opening 0)).1)).2 := by
  have hloop := play_iterate_last (answering elapsedMs device)
    (fun _ : Unit => beginRound o f image partition (nowMs 0)) n () (.inl rsp) (opening 0) hbegin
  change ((if f.size < 116 then _ else _ : Tool End).play (answering elapsedMs device)
    [⟨.fseekEnd, true⟩, ⟨.ftell, true⟩]).2 = _
  rw [if_neg (Nat.not_lt.mpr h116)]
  change ((iterate (fun _ : Unit => beginRound o f image partition (nowMs 0)) (n + 1) () >>= _).play
    (answering elapsedMs device) (opening 0)).2 = _
  rw [play_bind, hloop]

theorem play_readyForever (rounds : ℕ) :
    ((downloadOf smallImage rounds).play readySurroundings []).2 = .running := by
  cases rounds with
  | zero => rfl
  | succ n =>
    obtain ⟨hbegin, hcount⟩ := play_readyBegin (nowMs 0) (opening 0) rfl
    have hopened := play_opening .little (scripted .little readyForever) smallImage .union none n _ (by decide) hbegin
    exact hopened.trans (play_readySession n _ hcount)

theorem readyForever_never_ends :
    (∀ rounds, ClockOk none ((downloadOf smallImage rounds).play readySurroundings []).1) ∧
    (∀ rounds, ((downloadOf smallImage rounds).play readySurroundings []).2 = .running) ∧
    ∀ bound, ∃ rounds, bound < commandsOf ((downloadOf smallImage rounds).play readySurroundings []).1 := by
  have hclock : ∀ rounds, ClockOk none ((downloadOf smallImage rounds).play readySurroundings []).1 :=
    fun rounds => clockOk_answering _ _ [] none (fun _ h => nomatch h)
  refine ⟨hclock, play_readyForever, fun bound => ⟨bound + 1, ?_⟩⟩
  have hspent := commandsOf_le .little (fun _ => some smallImage) ("union.bin", .union, none) (bound + 1) _ _
    (play_runs readySurroundings (downloadOf smallImage (bound + 1)) []) (hclock (bound + 1))
  exact hspent.2.1 (play_readyForever (bound + 1))

end LibCxlmi.Tools
