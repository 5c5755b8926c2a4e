import LibCxlmi.Transport.Endpoint

/-!
# Commands over MCTP (cxlmi.c:408-787)

`send_mctp_direct`, `send_mctp_tunnel1` and `send_mctp_tunnel2`. The code after
the tunnelled request is built is the same at both depths and stands here once,
as `sendMctpTunnelled`. The specification of all three is that their code is
the judgement of the layers of the bytes that arrived.
-/

namespace LibCxlmi.Transport
open LibCxlmi.Word LibCxlmi.Cci

def MctpTransport.advance (m : MctpTransport) (n : ℕ) : MctpTransport := { m with tag := m.tag + n }

theorem advance_advance (m : MctpTransport) (a b : ℕ) : (m.advance a).advance b = m.advance (a + b) := by
  simp only [MctpTransport.advance, Nat.add_assoc]

def sendMctpDirect (o : ByteOrder) (env : Env) (m : MctpTransport) (fmapi : Bool) (req : Bytes)
    (rspSz rspMin : ℕ) : Outcome MctpTransport :=
  let sd := if fmapi then m.fmapiSd else m.sd
  let addr := if fmapi then m.fmapiAddr else m.addr
  match mctpExchange env sd req rspSz false with
  | .notSent => ⟨-1, zeros rspSz, [], none, m⟩
  | .noReply => ⟨-1, zeros rspSz, [.mctp sd addr (transferred req)], none, m⟩
  | .reply buf len =>
      ⟨sanityCheckMctpRsp o req buf (sizeT len) (rspSz == rspMin) rspMin, buf,
        [.mctp sd addr (transferred req)], takenFrom env sd, m⟩

/- From the allocation of the response buffer on. `t_rsp_msg` has room for the
headers of `k` tunnels and `rsp_msg_sz` bytes, and the last `rsp_msg_sz` of it
are copied out on success. -/
def sendMctpTunnelled (o : ByteOrder) (env : Env) (m : MctpTransport) (k : ℕ) (tReq : Bytes)
    (rspSz rspMin : ℕ) : Outcome MctpTransport :=
  if env.alloc .tunnelRsp (16 * k + rspSz) = false then ⟨-1, zeros rspSz, [], none, m⟩
  else
    let sent := [Tx.mctp m.fmapiSd m.fmapiAddr (transferred tReq)]
    match mctpExchange env m.fmapiSd tReq (16 * k + rspSz) true with
    | .notSent => ⟨-1, zeros rspSz, [], none, m⟩
    | .noReply => ⟨-1, zeros rspSz, sent, none, m⟩
    | .reply buf len =>
        let rc := unwind o (mctpRule rspSz rspMin) k tReq buf len
        ⟨rc, if rc = 0 then (buf.drop (16 * k)).take rspSz else zeros rspSz, sent,
          takenFrom env m.fmapiSd, m⟩

/-- The single target of a level 1 tunnel (`cxlmi.c:550`, `cxlmi.c:898`). -/
def TunnelInfo.target1 (ti : TunnelInfo) : ℤ := if ti.ld = -1 then ti.port else ti.ld

def sendMctpTunnel1 (o : ByteOrder) (env : Env) (m : MctpTransport) (ti : TunnelInfo) (req : Bytes)
    (rspSz rspMin : ℕ) : Outcome MctpTransport :=
  if env.alloc .tunnelReq (16 + req.length) = false then ⟨-1, zeros rspSz, [], none, m⟩
  else
    sendMctpTunnelled o env (m.advance 1) 1
      (buildTunnelReq o (some m.tag) (TunnelInfo.target1 ti) req) rspSz rspMin

/-- The inner header takes the first tag, the outer one the second. -/
def mctpTunnel2Req (o : ByteOrder) (m : MctpTransport) (ti : TunnelInfo) (req : Bytes) : Bytes :=
  buildTunnelReq o (some (m.tag + 1)) ti.port (buildTunnelReq o (some m.tag) ti.ld req)

def sendMctpTunnel2 (o : ByteOrder) (env : Env) (m : MctpTransport) (ti : TunnelInfo) (req : Bytes)
    (rspSz rspMin : ℕ) : Outcome MctpTransport :=
  if env.alloc .tunnelReq (16 + req.length) = false then ⟨-1, zeros rspSz, [], none, m⟩
  else if env.alloc .outerReq (32 + req.length) = false then ⟨-1, zeros rspSz, [], none, m.advance 1⟩
  else sendMctpTunnelled o env (m.advance 2) 2 (mctpTunnel2Req o m ti req) rspSz rspMin

/-! ### Specification -/

/-- The bytes `recvfrom` stored, if it was reached and did not fail. -/
def arrived (env : Env) (sd : ℤ) (msg : Bytes) (bufSz : ℕ) (counted : Bool) : Option Bytes :=
  match mctpExchange env sd msg bufSz counted, env.recv with
  | .reply _ _, .datagram d => some (received bufSz d)
  | _, _ => none

def judgeArrived (o : ByteOrder) (rule : LengthRule) (k : ℕ) (req : Bytes) : Option Bytes → ℤ
  | none => -1
  | some d => judge (nestReports o rule k req d)

theorem arrived_length (env : Env) (sd : ℤ) (msg : Bytes) (bufSz : ℕ) (counted : Bool) (d : Bytes)
    (h : arrived env sd msg bufSz counted = some d) : d.length ≤ bufSz ∧ d.length < 2 ^ 31 := by
  unfold arrived at h
  split at h
  · obtain rfl := Option.some.inj h
    exact ⟨received_length_le bufSz _, received_length_lt bufSz _⟩
  · cases h

theorem arrived_recv (env : Env) (sd : ℤ) (msg : Bytes) (bufSz : ℕ) (counted : Bool) (d : Bytes)
    (h : arrived env sd msg bufSz counted = some d) :
    ∃ b, env.recv = .datagram b ∧ d = received bufSz b := by
  unfold arrived at h
  split at h
  · rename_i b _ hb
    exact ⟨b, hb, (Option.some.inj h).symm⟩
  · cases h

theorem mctpRule_succ_le (rspSz rspMin k : ℕ) : 16 ≤ (mctpRule rspSz rspMin (k + 1)).2 := Nat.le_refl 16

/- What the exchange hands to the check: the arrived bytes at the front of the
zeroed buffer with their length, or the zeroed buffer with -1. -/
theorem mctpExchange_reply (env : Env) (sd : ℤ) (msg : Bytes) (bufSz : ℕ) (counted : Bool)
    (buf : Bytes) (len : ℤ) (h : mctpExchange env sd msg bufSz counted = .reply buf len) :
    (∃ d, arrived env sd msg bufSz counted = some d ∧ buf = fillBuf bufSz d ∧ len = d.length) ∨
      (arrived env sd msg bufSz counted = none ∧ buf = zeros bufSz ∧ len = -1) := by
  have hr : buf = (recvfrom env bufSz).1 ∧ len = (recvfrom env bufSz).2 := by
    unfold mctpExchange at h
    split_ifs at h
    injection h with hb hl
    exact ⟨hb.symm, hl.symm⟩
  obtain ⟨rfl, rfl⟩ := hr
  unfold arrived recvfrom
  rw [h]
  cases env.recv with
  | error => exact Or.inr ⟨rfl, rfl, rfl⟩
  | datagram d => exact Or.inl ⟨received bufSz d, rfl, rfl, rfl⟩

theorem arrived_of_notReply (env : Env) (sd : ℤ) (msg : Bytes) (bufSz : ℕ) (counted : Bool)
    (h : mctpExchange env sd msg bufSz counted = .notSent ∨
      mctpExchange env sd msg bufSz counted = .noReply) :
    arrived env sd msg bufSz counted = none := by
  unfold arrived
  rcases h with h | h
  · rw [h]
  · rw [h]

theorem unwind_exchange (o : ByteOrder) (env : Env) (sd : ℤ) (msg : Bytes) (bufSz : ℕ)
    (counted : Bool) (buf : Bytes) (len : ℤ) (rspSz rspMin k : ℕ) (req : Bytes)
    (h : mctpExchange env sd msg bufSz counted = .reply buf len) :
    unwind o (mctpRule rspSz rspMin) k req buf len =
      judgeArrived o (mctpRule rspSz rspMin) k req (arrived env sd msg bufSz counted) := by
  rcases mctpExchange_reply env sd msg bufSz counted buf len h with ⟨d, ha, rfl, rfl⟩ | ⟨ha, rfl, rfl⟩
  · rw [ha]
    exact unwind_eq_judge o _ (mctpRule_succ_le rspSz rspMin) k req d _
      (arrived_length env sd msg bufSz counted d ha).2
  · rw [ha]
    exact unwind_zeros o _ k bufSz req (-1)

theorem sendMctpDirect_rc (o : ByteOrder) (env : Env) (m : MctpTransport) (fmapi : Bool)
    (req : Bytes) (rspSz rspMin : ℕ) :
    (sendMctpDirect o env m fmapi req rspSz rspMin).rc =
      judgeArrived o (mctpRule rspSz rspMin) 0 req
        (arrived env (if fmapi then m.fmapiSd else m.sd) req rspSz false) := by
  cases h : mctpExchange env (if fmapi then m.fmapiSd else m.sd) req rspSz false with
  | notSent =>
    rw [arrived_of_notReply _ _ _ _ _ (Or.inl h)]
    simp only [sendMctpDirect, h, judgeArrived]
  | noReply =>
    rw [arrived_of_notReply _ _ _ _ _ (Or.inr h)]
    simp only [sendMctpDirect, h, judgeArrived]
  | reply buf len =>
    rw [← unwind_exchange o env _ req rspSz false buf len rspSz rspMin 0 req h]
    simp only [sendMctpDirect, h]
    rfl

/-- What arrives at a tunnelled command, if its buffers are allocated. -/
def arrivedTunnelled (env : Env) (m : MctpTransport) (k : ℕ) (tReq : Bytes) (rspSz : ℕ) : Option Bytes :=
  if env.alloc .tunnelRsp (16 * k + rspSz) = false then none
  else arrived env m.fmapiSd tReq (16 * k + rspSz) true

theorem arrivedTunnelled_length (env : Env) (m : MctpTransport) (k : ℕ) (tReq : Bytes) (rspSz : ℕ)
    (d : Bytes) (h : arrivedTunnelled env m k tReq rspSz = some d) : d.length ≤ 16 * k + rspSz := by
  unfold arrivedTunnelled at h
  split_ifs at h
  exact (arrived_length _ _ _ _ _ d h).1

theorem sendMctpTunnelled_rc (o : ByteOrder) (env : Env) (m : MctpTransport) (k : ℕ) (tReq : Bytes)
    (rspSz rspMin : ℕ) :
    (sendMctpTunnelled o env m k tReq rspSz rspMin).rc =
      judgeArrived o (mctpRule rspSz rspMin) k tReq (arrivedTunnelled env m k tReq rspSz) := by
  unfold sendMctpTunnelled arrivedTunnelled
  split_ifs with ha
  · rfl
  · cases h : mctpExchange env m.fmapiSd tReq (16 * k + rspSz) true with
    | notSent =>
      rw [arrived_of_notReply _ _ _ _ _ (Or.inl h)]
      rfl
    | noReply =>
      rw [arrived_of_notReply _ _ _ _ _ (Or.inr h)]
      rfl
    | reply buf len => exact unwind_exchange o env _ tReq _ true buf len rspSz rspMin k tReq h

/-- What an exchange for the outermost message `tReq` can come to: nothing left
the host; no datagram was taken, as none came, a call failed or the message was
cut; or one was taken and the code is its judgement. -/
def MctpEffect (o : ByteOrder) (env : Env) (sd : ℤ) (addr : SockaddrMctp) (k : ℕ) (tReq : Bytes)
    (rspSz rspMin : ℕ) (r : Outcome MctpTransport) : Prop :=
  (r.sent = [] ∧ r.taken = none ∧ r.rc = -1) ∨
    (r.sent = [.mctp sd addr (transferred tReq)] ∧ r.taken = none ∧ r.rc = -1 ∧
      (env.poll = .ready → env.recv ≠ .error → tReq.length ≤ maxRwCount → False)) ∨
    ∃ d, env.poll = .ready ∧ env.recv = .datagram d ∧
      r.sent = [.mctp sd addr (transferred tReq)] ∧ r.taken = some sd ∧
      r.rc = judge (nestReports o (mctpRule rspSz rspMin) k tReq (received (16 * k + rspSz) d))

theorem transferred_of_le (msg : Bytes) (h : msg.length ≤ maxRwCount) : transferred msg = msg :=
  List.take_of_length_le h

theorem mctpExchange_noReply (env : Env) (sd : ℤ) (msg : Bytes) (bufSz : ℕ) (counted : Bool)
    (h : mctpExchange env sd msg bufSz counted = .noReply) (hp : env.poll = .ready)
    (hl : msg.length ≤ maxRwCount) : False := by
  unfold mctpExchange at h
  rw [transferred_of_le msg hl, waitReply_eq, hp] at h
  split_ifs at h with h1 h2 h3
  · exact h2.2 rfl
  · exact h3 (by decide)

theorem mctpExchange_datagram (env : Env) (sd : ℤ) (msg : Bytes) (bufSz : ℕ) (counted : Bool) (d : Bytes)
    (hs : env.sendOk = true) (hp : env.poll = .ready) (hr : env.recv = .datagram d) (hsd : 0 ≤ sd)
    (hl : msg.length ≤ maxRwCount) :
    mctpExchange env sd msg bufSz counted = .reply (fillBuf bufSz (received bufSz d)) (received bufSz d).length := by
  have hsend : ¬(sd < 0 ∨ env.sendOk = false) := by
    rw [hs]
    simpa using hsd
  unfold mctpExchange recvfrom
  simp only [hsend, if_false, transferred_of_le msg hl, ne_eq, not_true_eq_false, and_false, waitReply_eq, hp,
    decide_true, if_true, hr]

theorem arrived_datagram (env : Env) (sd : ℤ) (msg : Bytes) (bufSz : ℕ) (counted : Bool) (d : Bytes)
    (hs : env.sendOk = true) (hp : env.poll = .ready) (hr : env.recv = .datagram d) (hsd : 0 ≤ sd)
    (hl : msg.length ≤ maxRwCount) : arrived env sd msg bufSz counted = some (received bufSz d) := by
  unfold arrived
  rw [mctpExchange_datagram env sd msg bufSz counted d hs hp hr hsd hl, hr]

theorem mctpExchange_ready (env : Env) (sd : ℤ) (msg : Bytes) (bufSz : ℕ) (counted : Bool)
    (buf : Bytes) (len : ℤ) (h : mctpExchange env sd msg bufSz counted = .reply buf len) :
    env.poll = .ready := by
  unfold mctpExchange at h
  rw [waitReply_eq] at h
  split_ifs at h with h1 h2 h3
  exact of_decide_eq_true h3

theorem mctpExchange_effect (o : ByteOrder) (env : Env) (sd : ℤ) (addr : SockaddrMctp) (k : ℕ)
    (tReq : Bytes) (rspSz rspMin : ℕ) (counted : Bool) (buf : Bytes) (len : ℤ)
    (r : Outcome MctpTransport) (h : mctpExchange env sd tReq (16 * k + rspSz) counted = .reply buf len)
    (hs : r.sent = [.mctp sd addr (transferred tReq)]) (ht : r.taken = takenFrom env sd)
    (hrc : r.rc = unwind o (mctpRule rspSz rspMin) k tReq buf len) :
    MctpEffect o env sd addr k tReq rspSz rspMin r := by
  rw [unwind_exchange o env sd tReq _ counted buf len rspSz rspMin k tReq h] at hrc
  have hp := mctpExchange_ready env sd tReq _ counted buf len h
  unfold takenFrom at ht
  cases hr : env.recv with
  | error =>
    have ha : arrived env sd tReq (16 * k + rspSz) counted = none := by
      unfold arrived
      rw [h, hr]
    rw [hr] at ht
    rw [ha] at hrc
    exact Or.inr (Or.inl ⟨hs, ht, hrc, fun _ hne _ => hne hr⟩)
  | datagram d =>
    have ha : arrived env sd tReq (16 * k + rspSz) counted = some (received (16 * k + rspSz) d) := by
      unfold arrived
      rw [h, hr]
    rw [hr] at ht
    rw [ha] at hrc
    exact Or.inr (Or.inr ⟨d, hp, hr, hs, ht, hrc⟩)

theorem sendMctpDirect_effect (o : ByteOrder) (env : Env) (m : MctpTransport) (fmapi : Bool)
    (req : Bytes) (rspSz rspMin : ℕ) :
    MctpEffect o env (if fmapi then m.fmapiSd else m.sd) (if fmapi then m.fmapiAddr else m.addr) 0 req
      rspSz rspMin (sendMctpDirect o env m fmapi req rspSz rspMin) := by
  cases h : mctpExchange env (if fmapi then m.fmapiSd else m.sd) req rspSz false with
  | notSent =>
    refine Or.inl ?_
    simp only [sendMctpDirect, h, and_self]
  | noReply =>
    refine Or.inr (Or.inl ?_)
    simp only [sendMctpDirect, h, true_and]
    exact fun hp _ hl => mctpExchange_noReply env _ req rspSz false h hp hl
  | reply buf len =>
    refine mctpExchange_effect o env _ _ 0 req rspSz rspMin false buf len _
      (by rw [Nat.mul_zero, Nat.zero_add]; exact h) ?_ ?_ ?_
    all_goals simp only [sendMctpDirect, h]
    rfl

theorem sendMctpTunnelled_effect (o : ByteOrder) (env : Env) (m : MctpTransport) (k : ℕ) (tReq : Bytes)
    (rspSz rspMin : ℕ) :
    MctpEffect o env m.fmapiSd m.fmapiAddr k tReq rspSz rspMin
      (sendMctpTunnelled o env m k tReq rspSz rspMin) := by
  cases ha : env.alloc .tunnelRsp (16 * k + rspSz) with
  | false =>
    refine Or.inl ?_
    simp only [sendMctpTunnelled, ha, if_true, and_self]
  | true =>
    cases h : mctpExchange env m.fmapiSd tReq (16 * k + rspSz) true with
    | notSent =>
      refine Or.inl ?_
      simp only [sendMctpTunnelled, ha, Bool.true_eq_false, if_false, h, and_self]
    | noReply =>
      refine Or.inr (Or.inl ?_)
      simp only [sendMctpTunnelled, ha, Bool.true_eq_false, if_false, h, true_and]
      exact fun hp _ hl => mctpExchange_noReply env _ tReq _ true h hp hl
    | reply buf len =>
      refine mctpExchange_effect o env _ _ k tReq rspSz rspMin true buf len _ h ?_ ?_ ?_
      all_goals simp only [sendMctpTunnelled, ha, Bool.true_eq_false, if_false, h]

theorem sendMctpDirect_st (o : ByteOrder) (env : Env) (m : MctpTransport) (fmapi : Bool) (req : Bytes)
    (rspSz rspMin : ℕ) : (sendMctpDirect o env m fmapi req rspSz rspMin).st = m := by
  cases h : mctpExchange env (if fmapi then m.fmapiSd else m.sd) req rspSz false with
  | notSent => simp only [sendMctpDirect, h]
  | noReply => simp only [sendMctpDirect, h]
  | reply buf len => simp only [sendMctpDirect, h]

theorem sendMctpTunnelled_st (o : ByteOrder) (env : Env) (m : MctpTransport) (k : ℕ) (tReq : Bytes)
    (rspSz rspMin : ℕ) : (sendMctpTunnelled o env m k tReq rspSz rspMin).st = m := by
  unfold sendMctpTunnelled
  split_ifs
  · rfl
  · cases h : mctpExchange env m.fmapiSd tReq (16 * k + rspSz) true with
    | notSent => rfl
    | noReply => rfl
    | reply buf len => rfl

/-! ### Closed and open descriptors -/

theorem mctpExchange_closed (env : Env) (sd : ℤ) (msg : Bytes) (bufSz : ℕ) (counted : Bool)
    (h : sd < 0) : mctpExchange env sd msg bufSz counted = .notSent := if_pos (Or.inl h)

theorem mctpExchange_open (env : Env) (sd : ℤ) (msg : Bytes) (bufSz : ℕ) (counted : Bool)
    (h : 0 ≤ sd) (hs : env.sendOk = true) : mctpExchange env sd msg bufSz counted ≠ .notSent := by
  unfold mctpExchange
  have hopen : ¬(sd < 0 ∨ env.sendOk = false) := by
    rw [hs]
    simpa using h
  rw [if_neg hopen]
  split_ifs
  all_goals exact fun hc => Exchange.noConfusion hc

theorem sendMctpTunnelled_closed (o : ByteOrder) (env : Env) (m : MctpTransport) (k : ℕ) (tReq : Bytes)
    (rspSz rspMin : ℕ) (h : m.fmapiSd < 0) :
    sendMctpTunnelled o env m k tReq rspSz rspMin = ⟨-1, zeros rspSz, [], none, m⟩ := by
  unfold sendMctpTunnelled
  rw [mctpExchange_closed env _ tReq _ true h]
  exact ite_self _

theorem sendMctpTunnelled_sent (o : ByteOrder) (env : Env) (m : MctpTransport) (k : ℕ) (tReq : Bytes)
    (rspSz rspMin : ℕ) (ha : env.alloc .tunnelRsp (16 * k + rspSz) = true) (h : 0 ≤ m.fmapiSd)
    (hs : env.sendOk = true) :
    (sendMctpTunnelled o env m k tReq rspSz rspMin).sent =
      [.mctp m.fmapiSd m.fmapiAddr (transferred tReq)] := by
  have hopen := mctpExchange_open env m.fmapiSd tReq (16 * k + rspSz) true h hs
  cases he : mctpExchange env m.fmapiSd tReq (16 * k + rspSz) true with
  | notSent => exact absurd he hopen
  | noReply => simp only [sendMctpTunnelled, ha, Bool.true_eq_false, if_false, he]
  | reply buf len => simp only [sendMctpTunnelled, ha, Bool.true_eq_false, if_false, he]

/-- On success the caller's buffer is the innermost message and zeros. -/
theorem sendMctpTunnelled_rsp (o : ByteOrder) (env : Env) (m : MctpTransport) (k : ℕ) (tReq : Bytes)
    (rspSz rspMin : ℕ) (d : Bytes) (hd : arrivedTunnelled env m k tReq rspSz = some d)
    (hk : 16 * k ≤ d.length) (h : (sendMctpTunnelled o env m k tReq rspSz rspMin).rc = 0) :
    (sendMctpTunnelled o env m k tReq rspSz rspMin).rsp = fillBuf rspSz (d.drop (16 * k)) := by
  have hlen := arrivedTunnelled_length env m k tReq rspSz d hd
  unfold sendMctpTunnelled at h ⊢
  unfold arrivedTunnelled at hd
  split_ifs at hd ⊢ with ha
  rw [if_neg ha] at h
  cases he : mctpExchange env m.fmapiSd tReq (16 * k + rspSz) true with
  | notSent =>
    rw [arrived_of_notReply _ _ _ _ _ (Or.inl he)] at hd
    cases hd
  | noReply =>
    rw [arrived_of_notReply _ _ _ _ _ (Or.inr he)] at hd
    cases hd
  | reply buf len =>
    simp only [he] at h ⊢
    rw [if_pos h]
    rcases mctpExchange_reply _ _ _ _ _ buf len he with ⟨d', hd', rfl, -⟩ | ⟨hn, -, -⟩
    · obtain rfl := Option.some.inj (hd'.symm.trans hd)
      rw [fillBuf_drop _ _ _ hk, show 16 * k + rspSz - 16 * k = rspSz by omega]
      exact fillBuf_take rspSz _ (by rw [List.length_drop]; omega)
    · rw [hn] at hd
      cases hd

end LibCxlmi.Transport
