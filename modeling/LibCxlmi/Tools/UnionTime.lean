import LibCxlmi.Tools.Meter

/-!
# How long a union download lasts

The tool waits 35 seconds for a session and 300 seconds in each busy state, and
gives up on a device that asks for the same range again. So its commands are bounded
by the number of responses that move on, and by nothing if these never stop.
-/

namespace LibCxlmi.Tools
open LibCxlmi.Word LibCxlmi.Dialogue

/-! ### Timers -/

/-- A timer set at `since` is read again: by what the clock can say now at least
`limit - left` milliseconds have passed. -/
def Running (limit slack : ℕ) (since : U 64) (now : Option ℕ) (left : ℕ) : Prop :=
  ∃ a n, now = some n ∧ since = nowMs a ∧ a ≤ n ∧ n ≤ a + limit + slack ∧ limit ≤ n - a + left

theorem nowMs_sub (a b : ℕ) (hab : a ≤ b) (hlt : b - a < 2 ^ 64) : (nowMs b - nowMs a).val = b - a := by
  rw [Fin.sub_def]
  change (2 ^ 64 - a % 2 ^ 64 + b % 2 ^ 64) % 2 ^ 64 = b - a
  omega

theorem Running.pass (limit slack : ℕ) (since : U 64) (now : Option ℕ) (left k : ℕ)
    (h : Running limit slack since now left) : Running limit (slack + k) since (now.map (· + k)) left := by
  obtain ⟨a, n, rfl, hsince, han, hna, hleft⟩ := h
  exact ⟨a, n + k, rfl, hsince, by omega, by omega, by omega⟩

/- A timer that has not run out leaves some of its time, and all that passes after the reading counts. -/
theorem Running.read (limit slack : ℕ) (since : U 64) (now : Option ℕ) (left ms : ℕ)
    (h : Running limit slack since now left) (hsmall : limit + slack ≤ 2 ^ 32)
    (hms : ∀ n ∈ now, n ≤ ms ∧ ms < n + 2 ^ 63) (hrun : (nowMs ms - since).val < limit) :
    1 ≤ left ∧ ∀ k, 1 ≤ k → Running limit k since (some (ms + k)) (left - 1) := by
  obtain ⟨a, n, rfl, rfl, han, hna, hleft⟩ := h
  obtain ⟨hn, hlt⟩ := hms n rfl
  rw [nowMs_sub a ms (by omega) (by omega)] at hrun
  refine ⟨by omega, fun k hk => ⟨a, ms + k, rfl, rfl, by omega, by omega, by omega⟩⟩

/-! ### The session -/

/-- The time left in the state the device is busy in. -/
def Timed (s : Session) (now : Option ℕ) (left : ℕ) : Prop :=
  (fwState s.rsp.state).isBusy = true →
    (s.busyState ≠ s.rsp.state → 300000 ≤ left) ∧
      (s.busyState = s.rsp.state → Running 300000 2000 s.busySinceMs now left)

/-- Commands that the BEGIN loop and the responses that move on allow. -/
def allowed (moves : ℕ) : ℕ := 3 * 35002 + 3 * 300001 * moves

/-- The device asks for the data that it was sent last. -/
def Session.Stuck (s : Session) : Prop := fwState s.rsp.state = .needData ∧ s.lastData = some s.rsp.range

instance (s : Session) : Decidable s.Stuck := inferInstanceAs (Decidable (_ ∧ _))

/- Nothing is sent any more to a device that is stuck. -/
def Session.due (s : Session) (left : ℕ) : ℕ := if s.Stuck then 0 else 3 * (left + 1)

/-- Between two rounds: what has been sent, and what the timer still allows, is paid for. -/
structure Paid (i : ℕ) (s : Session) (x : Meter) : Prop where
  rounds : i ≤ x.commands
  last : x.last = some s.rsp
  budget : ∃ left, Timed s x.now left ∧ x.commands + s.due left ≤ allowed x.moves

def afterRound (i : ℕ) : Session ⊕ UnionExit → Meter → Prop
  | .inl s => Paid (i + 1) s
  | .inr _ => fun x => x.commands ≤ allowed x.moves

theorem due_le (s : Session) (left : ℕ) : s.due left ≤ 3 * (left + 1) := by
  unfold Session.due
  split_ifs
  · exact Nat.zero_le _
  · exact Nat.le_refl _

theorem due_of_state (s : Session) (left : ℕ) (h : fwState s.rsp.state ≠ .needData) : s.due left = 3 * (left + 1) :=
  if_neg fun hstuck => h hstuck.1

theorem isBusy_ne_max (st : U 32) (h : (fwState st).isBusy = true) : st ≠ uint32Max := by
  rintro rfl
  exact Bool.false_ne_true h

section Walk
variable (o : ByteOrder)

theorem meets_failWith (i : ℕ) (rsp : FwdownloadOutput) (x : Meter) (h : x.commands ≤ allowed x.moves) :
    (failWith rsp).Meets (meterContract o) (afterRound i) x :=
  h

theorem meets_sendAction (i : ℕ) (a : FwAction) (sid off seq : U 32) (pl : Bytes)
    (next : FwdownloadOutput → Tool (Session ⊕ UnionExit)) (x : Meter) (hlen : pl.length ≤ 2016)
    (hroom : x.commands + 3 ≤ allowed x.moves)
    (hnext : ∀ rsp, (next rsp).Meets (meterContract o) (afterRound i) (x.acted rsp)) :
    (sendAction o a sid off seq pl next).Meets (meterContract o) (afterRound i) x := by
  refine meets_bind _ _ _ _ x (meets_fwdownloadSend o a sid off seq pl _ x hlen ?_ fun rc rsp => ?_)
  · refine meets_failWith o i noResponse _ ?_
    dsimp only
    omega
  · dsimp only
    split_ifs
    · refine meets_failWith o i rsp _ ?_
      dsimp only [Meter.acted, Meter.report, allowed] at hroom ⊢
      omega
    · exact hnext rsp

/- A response after one that was not busy is new, and starts the timer anew. -/
theorem paid_fresh (i : ℕ) (x : Meter) (rsp : FwdownloadOutput) (busyState : U 32) (since : U 64)
    (lastData : Option (U 32 × U 32 × U 32)) (hrounds : i ≤ x.commands) (hroom : x.commands + 3 ≤ allowed x.moves)
    (hnew : movesOn x.last rsp = true) (hbusy : (fwState rsp.state).isBusy = true → busyState ≠ rsp.state) :
    Paid (i + 1) ⟨rsp, busyState, since, lastData⟩ (x.acted rsp) := by
  refine ⟨?_, rfl, 300000, fun hb => ⟨fun _ => Nat.le_refl _, fun h => absurd h (hbusy hb)⟩, ?_⟩
  · dsimp only [Meter.acted, Meter.report]
    omega
  · have hdue := due_le ⟨rsp, busyState, since, lastData⟩ 300000
    dsimp only [Meter.acted, Meter.report, allowed] at hroom ⊢
    rw [hnew, Bool.toNat_true]
    omega

theorem movesOn_of_state (prev rsp : FwdownloadOutput) (h : prev.state ≠ rsp.state) :
    movesOn (some prev) rsp = true := by
  rw [movesOn, changesState, decide_eq_true h, Bool.true_or, Bool.true_or]

/- Data that is asked for again ends the session, data of another range moves on. -/
theorem paid_data (i : ℕ) (x : Meter) (prev rsp : FwdownloadOutput) (hneed : fwState prev.state = .needData)
    (hlast : x.last = some prev) (hrounds : i ≤ x.commands) (hroom : x.commands + 3 ≤ allowed x.moves) :
    Paid (i + 1) ⟨rsp, uint32Max, 0, some prev.range⟩ (x.acted rsp) := by
  by_cases hsame : prev.state = rsp.state ∧ prev.range = rsp.range
  · have hstuck : (⟨rsp, uint32Max, 0, some prev.range⟩ : Session).Stuck :=
      ⟨hsame.1 ▸ hneed, congrArg some hsame.2⟩
    refine ⟨?_, rfl, 0, fun hbusy => ?_, ?_⟩
    · dsimp only [Meter.acted, Meter.report]
      omega
    · rw [hstuck.1] at hbusy
      cases hbusy
    · rw [Session.due, if_pos hstuck]
      dsimp only [Meter.acted, Meter.report, allowed] at hroom ⊢
      omega
  · refine paid_fresh i x rsp uint32Max 0 _ hrounds hroom ?_ fun hb => (isBusy_ne_max _ hb).symm
    rw [hlast]
    by_cases hstate : prev.state = rsp.state
    · have hrange : prev.range ≠ rsp.range := fun hrange => hsame ⟨hstate, hrange⟩
      have hneeds : prev.needsData = true ∧ rsp.needsData = true :=
        ⟨decide_eq_true hneed, decide_eq_true (hstate ▸ hneed)⟩
      rw [movesOn, turnsRange, hneeds.1, hneeds.2, decide_eq_true hrange, Bool.and_true, Bool.and_true, Bool.or_true,
        Bool.true_or]
    · exact movesOn_of_state prev rsp hstate

theorem meets_sendData (f : File) (i : ℕ) (sid : U 32) (s : Session) (x : Meter) (h : Paid i s x)
    (hneed : fwState s.rsp.state = .needData) :
    (sendData o f sid s).Meets (meterContract o) (afterRound i) x := by
  obtain ⟨left, -, hpaid⟩ := h.budget
  have hfail := meets_failWith o i s.rsp x (by omega)
  unfold sendData
  dsimp only
  split_ifs with hlast hrange
  · exact hfail
  · exact hfail
  · have hroom : x.commands + 3 ≤ allowed x.moves := by
      rw [Session.due, if_neg fun hstuck => hlast hstuck.2] at hpaid
      omega
    rw [Bool.not_eq_false] at hrange
    have hlen : (f.read s.rsp.nextOffset.val s.rsp.nextLength.val).length ≤ 2016 := by
      rw [File.read_length]
      exact ((rangeOk_iff f _ _).mp hrange).2.1
    refine meets_attempt o _ _ _ _ x (costless_fseekSet o _) hfail ?_
    refine meets_attempt o _ _ _ _ x (costless_fread o f _ _) hfail ?_
    refine meets_sendAction o i .data sid _ _ _ _ x hlen hroom fun rsp => ?_
    have hpaid' := paid_data i x s.rsp rsp hneed h.last h.rounds hroom
    split_ifs
    · refine meets_failWith o i rsp _ ?_
      obtain ⟨left', -, hbound⟩ := hpaid'.budget
      omega
    · exact hpaid'

theorem meets_sendFinish (i : ℕ) (sid : U 32) (s : Session) (x : Meter) (h : Paid i s x)
    (hready : fwState s.rsp.state = .readyToFinish) :
    (sendFinish o sid s).Meets (meterContract o) (afterRound i) x := by
  obtain ⟨left, -, hpaid⟩ := h.budget
  rw [due_of_state s left (by rw [hready]; exact FwState.noConfusion)] at hpaid
  refine meets_sendAction o i .finish sid 0 0 [] _ x (Nat.zero_le _) (by omega) fun rsp => ?_
  refine paid_fresh i x rsp uint32Max 0 s.lastData h.rounds (by omega) ?_ fun hb => (isBusy_ne_max _ hb).symm
  rw [h.last]
  by_cases hstate : s.rsp.state = rsp.state
  · rw [movesOn, FwdownloadOutput.isReady, ← hstate, decide_eq_true hready, Bool.or_true]
  · exact movesOn_of_state s.rsp rsp hstate

theorem retryMs_bounds (rsp : FwdownloadOutput) : 1 ≤ retryMs rsp ∧ retryMs rsp ≤ 1000 := by
  unfold retryMs
  split_ifs with h
  · decide
  · have hne : rsp.retryAfterMs.val ≠ 0 := fun h0 => h (Fin.ext h0)
    omega

/- A query, with the timer set and `left` queries allowed after it. -/
theorem meets_sendQuery (i : ℕ) (sid : U 32) (s : Session) (x : Meter) (ms left : ℕ) (hrounds : i ≤ x.commands)
    (hlast : x.last = some s.rsp) (hnow : x.now = some ms) (hset : s.busyState = s.rsp.state)
    (htimer : ∀ k, 1 ≤ k → Running 300000 k s.busySinceMs (some (ms + k)) left)
    (hpaid : x.commands + 3 + 3 * (left + 1) ≤ allowed x.moves) :
    (sendQuery o sid s).Meets (meterContract o) (afterRound i) x := by
  obtain ⟨hmin, hmax⟩ := retryMs_bounds s.rsp
  have hslept : retryMs s.rsp * 1000 / 1000 = retryMs s.rsp := Nat.mul_div_cancel _ (by decide)
  refine meets_bind _ _ _ _ x (meets_usleep o _ _ x ?_)
  rw [hnow, hslept]
  refine meets_sendAction o i .query sid 0 0 [] _ _ (Nat.zero_le _) (by dsimp only; omega) fun rsp => ?_
  by_cases hsame : s.rsp.state = rsp.state
  · refine ⟨by dsimp only [Meter.acted, Meter.report]; omega, rfl, left, fun _ => ⟨fun h => ?_, fun _ => ?_⟩, ?_⟩
    · exact absurd (hset.trans hsame) h
    · obtain ⟨a, n, hn, hsince, han, hna, hleft⟩ := htimer (retryMs s.rsp + 3) (by omega)
      refine ⟨a, n, ?_, hsince, han, by omega, hleft⟩
      rw [← hn]
      exact congrArg some (Nat.add_assoc ms _ 3)
    · have hdue := due_le { s with rsp := rsp } left
      dsimp only [Meter.acted, Meter.report, allowed] at hpaid ⊢
      omega
  · have hnew : movesOn x.last rsp = true := by
      rw [hlast]
      exact movesOn_of_state s.rsp rsp hsame
    exact paid_fresh i { x with now := _ } rsp s.busyState s.busySinceMs s.lastData hrounds (by dsimp only; omega) hnew
      fun _ => hset ▸ hsame

theorem meets_waitBusy (i : ℕ) (sid : U 32) (s : Session) (x : Meter) (h : Paid i s x)
    (hbusy : (fwState s.rsp.state).isBusy = true) : (waitBusy o sid s).Meets (meterContract o) (afterRound i) x := by
  obtain ⟨left, htimed, hpaid⟩ := h.budget
  rw [due_of_state s left fun hneed => by rw [hneed] at hbusy; cases hbusy] at hpaid
  obtain ⟨hstart, hgoing⟩ := htimed hbusy
  refine meets_bind _ _ _ _ x (meets_clock o _ x (meets_failWith o i s.rsp x (by omega)) fun ms hms => ?_)
  dsimp only
  split_ifs with hset hlate
  · have hleft := hstart hset
    refine meets_sendQuery o i sid _ _ ms 299999 h.rounds h.last rfl rfl (fun k hk => ?_) (by dsimp only; omega)
    exact ⟨ms, ms + k, rfl, rfl, by omega, by omega, by omega⟩
  · exact meets_failWith o i s.rsp _ (by dsimp only; omega)
  · obtain ⟨hsome, hnext⟩ := (hgoing (not_not.mp hset)).read _ _ _ _ _ ms (by decide) hms (Nat.not_le.mp hlate)
    exact meets_sendQuery o i sid s _ ms (left - 1) h.rounds h.last rfl (not_not.mp hset) hnext (by dsimp only; omega)

theorem meets_unionRound (f : File) (i : ℕ) (sid : U 32) (s : Session) (x : Meter) (h : Paid i s x) :
    (unionRound o f sid s).Meets (meterContract o) (afterRound i) x := by
  obtain ⟨left, -, hpaid⟩ := h.budget
  have hbound : x.commands ≤ allowed x.moves := by omega
  rw [unionRound]
  split_ifs with hprogress
  · exact meets_failWith o i s.rsp x hbound
  · cases hst : fwState s.rsp.state with
    | preparing => exact meets_waitBusy o i sid s x h (by rw [hst]; rfl)
    | writing => exact meets_waitBusy o i sid s x h (by rw [hst]; rfl)
    | aborting => exact meets_waitBusy o i sid s x h (by rw [hst]; rfl)
    | needData => exact meets_sendData o f i sid s x h hst
    | readyToFinish => exact meets_sendFinish o i sid s x h hst
    | complete => exact hbound
    | failed => exact hbound
    | aborted => exact hbound
    | idle => exact hbound
    | unknown => exact hbound

/-! ### The function -/

/-- What a run of at most `rounds` rounds has spent. -/
def Spent (rounds : ℕ) : End → Meter → Prop
  | .returned _, x => x.commands ≤ allowed x.moves + 3
  | .running, x => x.commands ≤ allowed x.moves + 3 ∧ rounds ≤ x.commands
  | .undefined, _ => False

theorem meets_unionOut (rounds : ℕ) (sid : U 32) (e : UnionExit) (x : Meter) (h : x.commands ≤ allowed x.moves) :
    (unionOut o sid e).Meets (meterContract o) (Spent rounds) x := by
  unfold unionOut
  split_ifs
  · refine meets_bind _ _ _ _ x (meets_fwdownloadSend o .abort sid 0 0 [] _ x (Nat.zero_le _) ?_ fun rc rsp => ?_)
    · refine meets_ret _ _ _ _ ?_
      dsimp only [Spent]
      omega
    · refine meets_ret _ _ _ _ ?_
      dsimp only [Spent, Meter.acted, Meter.report, allowed] at h ⊢
      omega
  · exact Nat.le_add_right_of_le h

theorem meets_unionSession (f : File) (rounds : ℕ) (rsp : FwdownloadOutput) (x : Meter)
    (hlast : x.last = some rsp) (hroom : x.commands + 3 ≤ allowed x.moves) :
    (unionSession o f rounds rsp).Meets (meterContract o) (Spent rounds) x := by
  rw [unionSession]
  split_ifs with hbad
  · exact meets_unionOut o rounds 0 _ x (by omega)
  · have hstate : fwState rsp.state = .needData := by tauto
    have hstart : Paid 0 ⟨rsp, uint32Max, 0, none⟩ x := by
      refine ⟨Nat.zero_le _, hlast, 0, fun hbusy => ?_, ?_⟩
      · rw [hstate] at hbusy
        exact absurd hbusy Bool.false_ne_true
      · have hdue := due_le ⟨rsp, uint32Max, 0, none⟩ 0
        omega
    refine meets_bind _ _ _ _ x (meets_mono _ _ _ _ x (meets_iterate_counted _ _ Paid (fun _ y =>
      y.commands ≤ allowed y.moves) (fun i s y hs => ?_) rounds 0 _ x hstart) fun r y hr => ?_)
    · refine meets_mono _ _ _ _ y (meets_unionRound o f i rsp.sessionId s y hs) fun r z hr => ?_
      cases r with
      | inl s' => exact hr
      | inr e => exact hr
    · cases r with
      | none =>
        obtain ⟨s, hpaid⟩ := hr
        obtain ⟨left, -, hbudget⟩ := hpaid.budget
        refine meets_ret _ _ _ _ ⟨by omega, ?_⟩
        exact Nat.le_trans (Nat.le_of_eq (Nat.zero_add rounds).symm) hpaid.rounds
      | some e => exact meets_unionOut o rounds rsp.sessionId e y hr

/-- While the device is busy with another session. -/
structure BeginPaid (start : U 64) (i : ℕ) (x : Meter) : Prop where
  rounds : i ≤ x.commands
  budget : ∃ left, Running 35000 1000 start x.now left ∧ x.commands + 3 * (left + 1) ≤ 3 * 35001

def afterBegin (start : U 64) (i : ℕ) : Unit ⊕ (FwdownloadOutput ⊕ UnionExit) → Meter → Prop
  | .inl _ => BeginPaid start (i + 1)
  | .inr (.inl rsp) => fun x => x.last = some rsp ∧ x.commands + 3 ≤ allowed x.moves
  | .inr (.inr _) => fun x => x.commands ≤ allowed x.moves

theorem meets_beginRound (f : File) (image : UnionImage) (partition : Option UnionPartition) (start : U 64) (i : ℕ)
    (x : Meter) (h : BeginPaid start i x) :
    (beginRound o f image partition start).Meets (meterContract o) (afterBegin start i) x := by
  obtain ⟨left, hrunning, hpaid⟩ := h.budget
  have hrounds := h.rounds
  refine meets_bind _ _ _ _ x (meets_fwdownloadSend o _ _ _ _ [] _ x (Nat.zero_le _) ?_ fun rc rsp => ?_)
  · change (pure (.inr (.inr ⟨-1, false, noResponse.state⟩)) : Tool (Unit ⊕ (FwdownloadOutput ⊕ UnionExit))).Meets _ _ _
    refine meets_ret _ _ _ _ ?_
    dsimp only [afterBegin, allowed]
    omega
  · have hbound : (x.acted rsp).commands + 3 ≤ allowed (x.acted rsp).moves := by
      dsimp only [Meter.acted, Meter.report, allowed]
      omega
    have hfailed : ∀ y : Meter, y.commands = (x.acted rsp).commands →
        y.moves = (x.acted rsp).moves →
        (pure (.inr (.inr ⟨-1, false, rsp.state⟩)) : Tool (Unit ⊕ (FwdownloadOutput ⊕ UnionExit))).Meets
          (meterContract o) (afterBegin start i) y := by
      intro y hcommands hmoves
      refine meets_ret _ _ _ _ ?_
      dsimp only [afterBegin]
      rw [hcommands, hmoves]
      omega
    dsimp only
    split_ifs with h0 h2
    · exact meets_ret _ _ _ _ ⟨rfl, hbound⟩
    · exact hfailed _ rfl rfl
    · refine meets_bind _ _ _ _ _ (meets_clock o _ _ (hfailed _ rfl rfl) fun ms hms => ?_)
      dsimp only
      split_ifs with hlate
      · exact hfailed _ rfl rfl
      · obtain ⟨hsome, hnext⟩ := (hrunning.pass _ _ _ _ _ 3).read _ _ _ _ _ ms (by decide) hms (Nat.not_le.mp hlate)
        refine meets_bind _ _ _ _ _ (meets_usleep o _ _ _ (meets_ret _ _ _ _ ?_))
        refine ⟨?_, left - 1, hnext 1000 (by decide), ?_⟩
        · dsimp only [Meter.acted, Meter.report]
          omega
        · dsimp only [Meter.acted, Meter.report]
          omega

theorem meets_unionDownload (f : File) (image : UnionImage) (partition : Option UnionPartition) (rounds : ℕ) :
    (unionDownload o f image partition rounds).Meets (meterContract o) (Spent rounds) ⟨0, none, 0, none⟩ := by
  have hearly : (return .returned (-1) : Tool End).Meets (meterContract o) (Spent rounds) ⟨0, none, 0, none⟩ :=
    meets_ret _ _ _ _ (Nat.zero_le _)
  unfold unionDownload
  refine meets_attempt o _ _ _ _ _ (costless_fseekEnd o) hearly ?_
  refine meets_attempt o _ _ _ _ _ (costless_ftell o) hearly ?_
  by_cases hsize : f.size < 116
  · rw [if_pos hsize]
    exact hearly
  rw [if_neg hsize]
  refine meets_attempt o _ _ _ _ _ (costless_fseekSet o 0) hearly ?_
  refine meets_bind _ _ _ _ _ (meets_clock o _ _ hearly fun ms _ => ?_)
  have hstart : BeginPaid (nowMs ms) 0 ⟨0, some ms, 0, none⟩ :=
    ⟨Nat.le_refl 0, 35000, ⟨ms, ms, rfl, rfl, Nat.le_refl _, by omega, by omega⟩, by dsimp only; omega⟩
  refine meets_bind _ _ _ _ _ (meets_mono _ _ _ _ _ (meets_iterate_counted _ _ (fun i _ => BeginPaid (nowMs ms) i)
    (fun r => afterBegin (nowMs ms) 0 (.inr r)) (fun i _ y hy => ?_) rounds 0 () _ hstart) fun r y hr => ?_)
  · refine meets_mono _ _ _ _ y (meets_beginRound o f image partition (nowMs ms) i y hy) fun r z hr => ?_
    cases r with
    | inl u => exact hr
    | inr r => cases r with
      | inl rsp => exact hr
      | inr e => exact hr
  · cases r with
    | none =>
      obtain ⟨-, hpaid⟩ := hr
      obtain ⟨left, -, hbudget⟩ := hpaid.budget
      refine meets_ret _ _ _ _ ⟨by unfold allowed; omega, ?_⟩
      exact Nat.le_trans (Nat.le_of_eq (Nat.zero_add rounds).symm) hpaid.rounds
    | some r => cases r with
      | inl rsp => exact meets_unionSession o f rounds rsp y hr.1 hr.2
      | inr e => exact meets_unionOut o rounds 0 e y hr

end Walk

/-- Three commands for each of 35002 tries, and for each of 300001 queries that a response that moves on allows. -/
theorem commandsOf_le (o : ByteOrder) (disk : Disk) (params : String × UnionImage × Option UnionPartition)
    (rounds : ℕ) (t : Log) (e : End) (hrun : (vuDlunionDownload o disk params rounds).Runs t e)
    (hclock : ClockOk none t) :
    commandsOf t ≤ allowed (movesFrom none (responses o t)) + 3 ∧ (e = .running → rounds ≤ commandsOf t) ∧
      e ≠ .undefined := by
  have hmeets : (vuDlunionDownload o disk params rounds).Meets (meterContract o) (Spent rounds) ⟨0, none, 0, none⟩ := by
    unfold vuDlunionDownload
    cases disk params.1 with
    | none => exact meets_ret _ _ _ _ (Nat.zero_le _)
    | some f => exact meets_unionDownload o f params.2.1 params.2.2 rounds
  obtain ⟨hcommands, hmoves⟩ := meter_counts o ⟨0, none, 0, none⟩ t
  rw [Nat.zero_add] at hcommands hmoves
  have hspent := (meets_sound _ _ _ _ t e hmeets hrun ((meter_kept_iff o _ t).mpr hclock)).2
  change Spent rounds e (t.foldl (meterAfter o) _) at hspent
  cases e with
  | returned rc =>
    dsimp only [Spent] at hspent
    rw [hcommands, hmoves] at hspent
    exact ⟨hspent, nofun, nofun⟩
  | running =>
    dsimp only [Spent] at hspent
    rw [hcommands, hmoves] at hspent
    exact ⟨hspent.1, fun _ => hspent.2, nofun⟩
  | undefined => exact absurd hspent id

end LibCxlmi.Tools
