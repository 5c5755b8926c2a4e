import Mathlib.Algebra.Order.BigOperators.Group.List
import Mathlib.Data.ENat.Basic
import LibCxlmi.Transport.Outbound

/-!
# How long a command waits (cxlmi.c:209-232, 408-456, 574-593, 686-705)

An endpoint has a timeout, which `cxlmi_endpoint_set_timeout` changes and the
`poll` loops of the MCTP senders pass on: 0 becomes -1, no timeout at all, and a
call that a signal interrupts is made again with the whole timeout. Times are in
nanoseconds, `⊤` for a call that never returns. The mailbox ioctl and the mock
do not poll.
-/

namespace LibCxlmi.Run
open LibCxlmi.Word LibCxlmi.Cci LibCxlmi.Transport

def mctpMaxTimeout : ℕ := 2000

def mctpCheckTimeout (timeoutMs : U 32) : Bool := decide (mctpMaxTimeout < timeoutMs.val)

/-- An endpoint with its member `timeout_ms`, an `int`. -/
structure TimedEndpoint where
  ep : Endpoint
  timeoutMs : ℤ

def endpointSetTimeout (e : TimedEndpoint) (timeoutMs : U 32) : ℤ × TimedEndpoint :=
  if e.ep.transportData.isSome = true ∧ mctpCheckTimeout timeoutMs = true then (1, e)
  else (0, { e with timeoutMs := int32 timeoutMs.val })

/-- What calls of the setter leave, whether they are accepted or not. -/
def setTimeouts (e : TimedEndpoint) (ts : List (U 32)) : TimedEndpoint :=
  ts.foldl (fun e t => (endpointSetTimeout e t).2) e

/-- `cxlmi_open_mctp` starts from the maximum. -/
def openedMctp (ep : Endpoint) : TimedEndpoint := ⟨ep, mctpMaxTimeout⟩

def pollTimeout (timeoutMs : ℤ) : ℤ := if timeoutMs ≠ 0 then timeoutMs else -1

/-! ### The poll loop -/

/-- The time of each call of `poll`: those that were interrupted, and the one
that was not. -/
structure PollTimes where
  interrupted : List ℕ∞
  last : ℕ∞

def nsPerMs : ℕ := 1000000

/-- A call with a timeout waits at most that long. -/
def Within (timeout : ℤ) (d : ℕ∞) : Prop := 0 ≤ timeout → d ≤ (timeout.toNat * nsPerMs : ℕ)

def PollTimes.Within (timeout : ℤ) (p : PollTimes) : Prop :=
  (∀ d ∈ p.interrupted, Run.Within timeout d) ∧ Run.Within timeout p.last

/-- Whether the loop ends with something to receive, and how long it took. -/
def pollLoop (last : ℕ∞) (e : PollEnd) : List ℕ∞ → Bool × ℕ∞
  | [] => (decide (e = .ready), last)
  | d :: ds => ((pollLoop last e ds).1, d + (pollLoop last e ds).2)

theorem pollLoop_ready (last : ℕ∞) (e : PollEnd) (ds : List ℕ∞) :
    (pollLoop last e ds).1 = waitReply ds.length e := by
  rw [waitReply_eq]
  induction ds with
  | nil => rfl
  | cons d ds ih => exact ih

theorem pollLoop_time (last : ℕ∞) (e : PollEnd) (ds : List ℕ∞) : (pollLoop last e ds).2 = ds.sum + last := by
  induction ds with
  | nil => rw [pollLoop, List.sum_nil, zero_add]
  | cons d ds ih => rw [pollLoop, ih, List.sum_cons, add_assoc]

/-! ### Commands that wait -/

/- The two ways past `sendto` that give up before `poll`. -/
def exchangePolls (env : Env) (sd : ℤ) (msg : Bytes) (counted : Bool) : Bool :=
  if sd < 0 ∨ env.sendOk = false then false
  else if counted = true ∧ (transferred msg).length ≠ msg.length then false
  else true

def mctpPolls (o : ByteOrder) (env : Env) (m : MctpTransport) (fmapi : Bool) (ti : Option TunnelInfo)
    (req : Bytes) (rspSz : ℕ) : Bool :=
  match mctpBuild o env m ti req with
  | none => false
  | some (0, msg) => exchangePolls env (if fmapi then m.fmapiSd else m.sd) msg false
  | some (k + 1, msg) => env.alloc .tunnelRsp (16 * (k + 1) + rspSz) && exchangePolls env m.fmapiSd msg true

/-- Whether a command gets as far as the `poll` loop of its sender. -/
def commandPolls (o : ByteOrder) (env : Env) (ep : Endpoint) (ti : Option TunnelInfo) (req : Bytes)
    (rspSz : ℕ) : Bool :=
  !refused ep ti req &&
    match ep.transportData with
    | some (.mctp m) => !isMockEndpoint ep && mctpPolls o env m (cmdIsFmapi (commandSet req)) ti req rspSz
    | _ => false

/-- How long a command waits for its reply. -/
def commandWait (o : ByteOrder) (env : Env) (ep : Endpoint) (ti : Option TunnelInfo) (req : Bytes)
    (rspSz : ℕ) (p : PollTimes) : ℕ∞ :=
  if commandPolls o env ep ti req rspSz then (pollLoop p.last env.poll p.interrupted).2 else 0

/- The loop is reached exactly where a datagram would be taken if there was one. -/
def datagramReady (env : Env) : Bool := decide (env.poll = .ready) && (takenFrom env 0).isSome

theorem takenFrom_isSome (env : Env) (sd : ℤ) : (takenFrom env sd).isSome = (takenFrom env 0).isSome := by
  unfold takenFrom
  cases env.recv with
  | error => rfl
  | datagram d => rfl

theorem mctpExchange_cases (env : Env) (sd : ℤ) (msg : Bytes) (bufSz : ℕ) (counted : Bool) :
    (exchangePolls env sd msg counted = false ∧
        (mctpExchange env sd msg bufSz counted = .notSent ∨ mctpExchange env sd msg bufSz counted = .noReply)) ∨
      (exchangePolls env sd msg counted = true ∧ env.poll ≠ .ready ∧
        mctpExchange env sd msg bufSz counted = .noReply) ∨
      (exchangePolls env sd msg counted = true ∧ env.poll = .ready ∧
        mctpExchange env sd msg bufSz counted = .reply (recvfrom env bufSz).1 (recvfrom env bufSz).2) := by
  unfold exchangePolls mctpExchange
  rw [waitReply_eq]
  split_ifs with hs hc hr
  · exact Or.inl ⟨rfl, Or.inl rfl⟩
  · exact Or.inl ⟨rfl, Or.inr rfl⟩
  · exact Or.inr (Or.inr ⟨rfl, of_decide_eq_true hr, rfl⟩)
  · exact Or.inr (Or.inl ⟨rfl, fun he => hr (decide_eq_true he), rfl⟩)

theorem direct_taken (o : ByteOrder) (env : Env) (m : MctpTransport) (fmapi : Bool) (req : Bytes)
    (rspSz rspMin : ℕ) :
    (sendMctpDirect o env m fmapi req rspSz rspMin).taken.isSome =
      (exchangePolls env (if fmapi then m.fmapiSd else m.sd) req false && datagramReady env) := by
  unfold datagramReady
  rcases mctpExchange_cases env (if fmapi then m.fmapiSd else m.sd) req rspSz false with
    ⟨hp, he | he⟩ | ⟨hp, hr, he⟩ | ⟨hp, hr, he⟩
  · simp only [sendMctpDirect, he, hp, Option.isSome_none, Bool.false_and]
  · simp only [sendMctpDirect, he, hp, Option.isSome_none, Bool.false_and]
  · simp only [sendMctpDirect, he, hp, hr, Option.isSome_none, decide_false, Bool.true_and, Bool.false_and]
  · simp only [sendMctpDirect, he, hp, hr, decide_true, Bool.true_and, takenFrom_isSome]

theorem tunnelled_taken (o : ByteOrder) (env : Env) (m : MctpTransport) (k : ℕ) (tReq : Bytes)
    (rspSz rspMin : ℕ) :
    (sendMctpTunnelled o env m k tReq rspSz rspMin).taken.isSome =
      ((env.alloc .tunnelRsp (16 * k + rspSz) && exchangePolls env m.fmapiSd tReq true) && datagramReady env) := by
  unfold datagramReady sendMctpTunnelled
  cases ha : env.alloc .tunnelRsp (16 * k + rspSz) with
  | false => rfl
  | true =>
    simp only [Bool.true_eq_false, if_false, Bool.true_and]
    rcases mctpExchange_cases env m.fmapiSd tReq (16 * k + rspSz) true with
      ⟨hp, he | he⟩ | ⟨hp, hr, he⟩ | ⟨hp, hr, he⟩
    · simp only [he, hp, Option.isSome_none, Bool.false_and]
    · simp only [he, hp, Option.isSome_none, Bool.false_and]
    · simp only [he, hp, hr, Option.isSome_none, decide_false, Bool.true_and, Bool.false_and]
    · simp only [he, hp, hr, decide_true, Bool.true_and, takenFrom_isSome env m.fmapiSd]

theorem sendMctp_taken (o : ByteOrder) (env : Env) (m : MctpTransport) (fmapi : Bool) (ti : Option TunnelInfo)
    (req : Bytes) (rspSz rspMin : ℕ) :
    (sendMctp o env m fmapi ti req rspSz rspMin).taken.isSome =
      (mctpPolls o env m fmapi ti req rspSz && datagramReady env) := by
  unfold mctpPolls
  rcases sendMctp_cases o env m fmapi ti req rspSz rspMin with ⟨hb, n, -, hs⟩ | ⟨hb, hs⟩ | ⟨k, tReq, hb, hs⟩
  · rw [hb, hs]
    rfl
  · rw [hb, hs]
    exact direct_taken o env m fmapi req rspSz rspMin
  · rw [hb, hs]
    exact tunnelled_taken o env _ (k + 1) tReq rspSz rspMin

/-- An MCTP command takes a datagram exactly if it polls and there is one. -/
theorem command_taken (o : ByteOrder) (env : Env) (ep : Endpoint) (m : MctpTransport) (ti : Option TunnelInfo)
    (req : Bytes) (rspSz rspMin : ℕ) (r : Outcome Endpoint) (hm : ep.transportData = some (.mctp m))
    (h : sendCmdCci o env ep ti req rspSz rspMin = some r) :
    r.taken.isSome = (commandPolls o env ep ti req rspSz && datagramReady env) := by
  unfold sendCmdCci at h
  unfold commandPolls
  cases hf : refused ep ti req with
  | true =>
    rw [hf] at h
    obtain rfl := Option.some.inj h
    rfl
  | false =>
    simp only [hf, hm, Bool.false_eq_true, if_false] at h
    split_ifs at h with hk
    obtain rfl := Option.some.inj h
    simp only [hm, Bool.eq_false_iff.mpr hk, Bool.not_false, Bool.true_and]
    exact sendMctp_taken o env m _ ti req rspSz rspMin

/-! ### Bounds -/

/-- The timeouts an MCTP endpoint can have. -/
def Allowed (timeoutMs : ℤ) : Prop := 0 ≤ timeoutMs ∧ timeoutMs ≤ mctpMaxTimeout

theorem allowed_of_check (t : U 32) (h : mctpCheckTimeout t = false) : Allowed (int32 t.val) := by
  have hle : t.val ≤ mctpMaxTimeout := not_lt.mp (of_decide_eq_false h)
  rw [int32_natCast t.val (by unfold mctpMaxTimeout at hle; omega)]
  exact ⟨Int.natCast_nonneg _, Nat.cast_le.mpr hle⟩

theorem endpointSetTimeout_allowed (e : TimedEndpoint) (t : U 32) (m : MctpTransport)
    (hm : e.ep.transportData = some (.mctp m)) (h : Allowed e.timeoutMs) :
    (endpointSetTimeout e t).2.ep = e.ep ∧ Allowed (endpointSetTimeout e t).2.timeoutMs := by
  obtain ⟨ep, t₀⟩ := e
  unfold endpointSetTimeout
  split_ifs with hc
  · exact ⟨rfl, h⟩
  · have hcheck : mctpCheckTimeout t = false :=
      Bool.eq_false_iff.mpr fun ht => hc ⟨Option.isSome_of_eq_some hm, ht⟩
    dsimp only
    exact ⟨rfl, allowed_of_check t hcheck⟩

theorem setTimeouts_allowed (e : TimedEndpoint) (ts : List (U 32)) (m : MctpTransport)
    (hm : e.ep.transportData = some (.mctp m)) (h : Allowed e.timeoutMs) :
    (setTimeouts e ts).ep = e.ep ∧ Allowed (setTimeouts e ts).timeoutMs := by
  induction ts generalizing e with
  | nil => exact ⟨rfl, h⟩
  | cons t ts ih =>
    obtain ⟨he, ha⟩ := endpointSetTimeout_allowed e t m hm h
    obtain ⟨hes, has⟩ := ih (endpointSetTimeout e t).2 (he ▸ hm) ha
    exact ⟨hes.trans he, has⟩

theorem openedMctp_allowed (ep : Endpoint) : Allowed (openedMctp ep).timeoutMs :=
  ⟨Int.natCast_nonneg mctpMaxTimeout, le_refl _⟩

/- The longest run of the loop: every call takes its whole timeout. -/
def slowest (n : ℕ) (d : ℕ∞) : PollTimes := ⟨List.replicate n d, d⟩

theorem slowest_within (timeout : ℤ) (n : ℕ) (d : ℕ∞) (h : Within timeout d) : (slowest n d).Within timeout :=
  ⟨fun _ hx => List.eq_of_mem_replicate hx ▸ h, h⟩

theorem slowest_time (n : ℕ) (d : ℕ∞) (e : PollEnd) :
    (pollLoop (slowest n d).last e (slowest n d).interrupted).2 = (n + 1) • d := by
  rw [pollLoop_time]
  show (List.replicate n d).sum + d = (n + 1) • d
  rw [List.sum_replicate, succ_nsmul]

theorem within_time (timeout : ℤ) (p : PollTimes) (e : PollEnd) (ht : 0 ≤ timeout) (h : p.Within timeout) :
    (pollLoop p.last e p.interrupted).2 ≤ ((p.interrupted.length + 1) * (timeout.toNat * nsPerMs) : ℕ) := by
  rw [pollLoop_time]
  have hs := List.sum_le_card_nsmul p.interrupted _ fun d hd => h.1 d hd ht
  calc p.interrupted.sum + p.last
      ≤ p.interrupted.length • ((timeout.toNat * nsPerMs : ℕ) : ℕ∞) + ((timeout.toNat * nsPerMs : ℕ) : ℕ∞) :=
        add_le_add hs (h.2 ht)
    _ = ((p.interrupted.length + 1) * (timeout.toNat * nsPerMs) : ℕ) := by
        rw [← succ_nsmul, nsmul_eq_mul]
        norm_cast

def maxWait : ℕ := mctpMaxTimeout * nsPerMs

/-- Every wait is within the maximum exactly if the timeout is not 0 and fits
into it once for each call of `poll`. -/
theorem wait_bounded_iff (o : ByteOrder) (env : Env) (m : MctpTransport) (fd : ℤ) (fmapi : Bool)
    (ti : Option TunnelInfo) (req : Bytes) (rspSz : ℕ) (ts : List (U 32)) :
    let e := setTimeouts (openedMctp ⟨some (.mctp m), fd, fmapi⟩) ts
    (∀ p : PollTimes, p.interrupted.length = env.interrupts → p.Within (pollTimeout e.timeoutMs) →
        commandWait o env e.ep ti req rspSz p ≤ maxWait) ↔
      (commandPolls o env e.ep ti req rspSz = true →
        e.timeoutMs ≠ 0 ∧ (env.interrupts + 1) * e.timeoutMs ≤ mctpMaxTimeout) := by
  intro e
  obtain ⟨-, h0, -⟩ := setTimeouts_allowed (openedMctp ⟨some (.mctp m), fd, fmapi⟩) ts m rfl (openedMctp_allowed _)
  change 0 ≤ e.timeoutMs at h0
  constructor
  · intro hall hpoll
    have hslow : ∀ d, Within (pollTimeout e.timeoutMs) d → (env.interrupts + 1) • d ≤ (maxWait : ℕ∞) := by
      intro d hd
      have hw := hall (slowest env.interrupts d) List.length_replicate (slowest_within _ _ d hd)
      rw [commandWait, if_pos hpoll, slowest_time] at hw
      exact hw
    have hne : e.timeoutMs ≠ 0 := by
      intro hz
      have htop := hslow ⊤ fun hneg => absurd hneg (by rw [hz]; decide)
      rw [nsmul_eq_mul, ENat.mul_top (by norm_cast)] at htop
      exact absurd (top_le_iff.mp htop) (ENat.natCast_ne_top _)
    refine ⟨hne, ?_⟩
    have hfull := hslow _ fun _ => le_refl _
    rw [pollTimeout, if_pos hne, nsmul_eq_mul] at hfull
    unfold maxWait at hfull
    norm_cast at hfull
    rw [← mul_assoc] at hfull
    have hle := Nat.le_of_mul_le_mul_right hfull (by decide : 0 < nsPerMs)
    have hnat : (e.timeoutMs.toNat : ℤ) = e.timeoutMs := Int.toNat_of_nonneg h0
    rw [← hnat]
    exact_mod_cast hle
  · intro hcond p hlen hp
    unfold commandWait
    split_ifs with hpoll
    · obtain ⟨hne, hle⟩ := hcond hpoll
      rw [pollTimeout, if_pos hne] at hp
      refine (within_time _ p env.poll h0 hp).trans ?_
      rw [hlen]
      unfold maxWait
      norm_cast
      rw [← mul_assoc]
      apply Nat.mul_le_mul_right
      have hnat : (e.timeoutMs.toNat : ℤ) = e.timeoutMs := Int.toNat_of_nonneg h0
      rw [← hnat] at hle
      exact_mod_cast hle
    · exact bot_le

def interruptedOnce : Env := { takesAll with interrupts := 1 }

def threeSeconds : PollTimes := slowest 1 (1500 * nsPerMs : ℕ)

/-- With the timeout a new endpoint has, one signal lets a command wait 3 s; a
timeout of 0 is accepted, and a command then may wait forever. -/
theorem interrupted_wait_exceeds :
    threeSeconds.Within (pollTimeout (openedMctp mctpEndpoint).timeoutMs) ∧
      commandWait .little interruptedOnce mctpEndpoint none (identifyReq 0x22) 30 threeSeconds =
        (3000 * nsPerMs : ℕ) ∧
      (endpointSetTimeout (openedMctp mctpEndpoint) 0).1 = 0 ∧
      (slowest 0 ⊤).Within (pollTimeout (endpointSetTimeout (openedMctp mctpEndpoint) 0).2.timeoutMs) ∧
      commandWait .little takesAll mctpEndpoint none (identifyReq 0x22) 30 (slowest 0 ⊤) = ⊤ := by
  have hpolls : commandPolls .little interruptedOnce mctpEndpoint none (identifyReq 0x22) 30 = true := rfl
  have hpolls' : commandPolls .little takesAll mctpEndpoint none (identifyReq 0x22) 30 = true := rfl
  refine ⟨slowest_within _ 1 _ ?_, ?_, rfl, slowest_within _ 0 _ ?_, ?_⟩
  · intro _
    norm_cast
  · rw [commandWait, if_pos hpolls, threeSeconds, slowest_time, nsmul_eq_mul]
    norm_cast
  · intro hneg
    exact absurd hneg (by decide)
  · rw [commandWait, if_pos hpolls', slowest_time, one_nsmul]

end LibCxlmi.Run
