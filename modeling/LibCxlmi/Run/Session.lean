import LibCxlmi.Run.Machine
import LibCxlmi.Transport.Send

/-!
# Sessions on an MCTP endpoint

A session is a run of commands on one endpoint with its two sockets. Datagrams
from the device arrive between commands and, in `during`, while a command waits
for its reply; each socket hands them out in the order of arrival. The command
itself is `armCciRequest` and `sendCmdCci`, run in an environment whose `poll`
and `recvfrom` answer from the queue.

A request is known by the untruncated counter value of its outermost tag, which
no two requests share; a datagram remembers the request it was produced for.
-/

namespace LibCxlmi.Run
open LibCxlmi.Word LibCxlmi.Cci LibCxlmi.Transport

inductive Sock where
  | cci
  | fmapi
  deriving DecidableEq, Repr

structure Request where
  number : ℕ
  msg : Bytes
  depth : ℕ
  rspSz : ℕ
  rspMin : ℕ
  deriving DecidableEq, Repr

structure Datagram where
  request : ℕ
  bytes : Bytes
  deriving DecidableEq, Repr

/-- One call of the library: the command, what the system does with it, and the
datagrams that arrive on its socket while it waits. -/
structure Turn where
  ti : Option TunnelInfo
  set : Byte
  cmd : Byte
  pl : Bytes
  rspSz : ℕ
  rspMin : ℕ
  env : Env
  during : List Datagram

def Turn.sock (c : Turn) : Sock :=
  match c.ti with
  | none => if cmdIsFmapi c.set then .fmapi else .cci
  | some t => if t.level = 0 ∧ cmdIsFmapi c.set = false then .cci else .fmapi

/- `missed` counts the requests of a socket that no datagram was taken for. -/
structure Session where
  ep : Endpoint
  queue : Sock → List Datagram
  transmitted : Sock → List Request
  arrivals : Sock → ℕ
  missed : Sock → ℕ

inductive Event where
  | arrive (k : Sock) (g : Datagram)
  | command (c : Turn)

structure Result where
  rc : ℤ
  number : Option ℕ
  judged : Option Datagram
  deriving DecidableEq, Repr

/- `poll` reports a queued datagram at once and times out without one; both
calls may still fail, as `base` says. -/
def queueEnv (base : Env) (q : List Datagram) : Env :=
  { base with
    poll := if base.poll = .failed then .failed else if q = [] then .timedOut else .ready
    recv :=
      match base.recv, q with
      | .datagram _, g :: _ => .datagram g.bytes
      | _, _ => .error }

def counter (ep : Endpoint) : ℕ :=
  match ep.transportData with
  | some (.mctp m) => m.tag
  | _ => 0

def Session.deliver (s : Session) (k : Sock) (gs : List Datagram) : Session :=
  { s with
    queue := Function.update s.queue k (s.queue k ++ gs)
    arrivals := Function.update s.arrivals k (s.arrivals k + gs.length) }

/-- The request a command put on the wire; the last tag issued is its own. -/
def requestOf (c : Turn) (r : Outcome Endpoint) : Option Request :=
  match r.sent with
  | [.mctp _ _ msg] => some ⟨counter r.st - 1, msg, tunnelDepth c.ti, c.rspSz, c.rspMin⟩
  | _ => none

/-- Bookkeeping after a command: take the datagram, note the request. -/
def Session.settle (s : Session) (c : Turn) (r : Outcome Endpoint) : Session :=
  { s with
    ep := r.st
    queue := if r.taken.isSome then Function.update s.queue c.sock (s.queue c.sock).tail else s.queue
    transmitted := Function.update s.transmitted c.sock
      (s.transmitted c.sock ++ (requestOf c r).toList)
    missed := if (requestOf c r).isSome ∧ r.taken = none
      then Function.update s.missed c.sock (s.missed c.sock + 1) else s.missed }

def Session.call (o : ByteOrder) (s : Session) (c : Turn) : Option (Outcome Endpoint) :=
  let armed := armCciRequest o s.ep c.set c.cmd c.pl
  sendCmdCci o (queueEnv c.env (s.queue c.sock)) armed.2 c.ti armed.1 c.rspSz c.rspMin

def Session.step (o : ByteOrder) (s : Session) : Event → Session × Option Result
  | .arrive k g => (s.deliver k [g], none)
  | .command c =>
      let s := s.deliver c.sock c.during
      match s.call o c with
      | none => (s, none)
      | some r => (s.settle c r,
          some ⟨r.rc, (requestOf c r).map Request.number,
            if r.taken.isSome then (s.queue c.sock).head? else none⟩)

/-- A session that starts with nothing queued on an endpoint whose transport
data is MCTP data. -/
def Session.start (m : MctpTransport) (fd : ℤ) (hasFmapi : Bool) : Session :=
  ⟨⟨some (.mctp m), fd, hasFmapi⟩, fun _ => [], fun _ => [], fun _ => 0, fun _ => 0⟩

/-! ### What one call does -/

theorem queueEnv_recv (base : Env) (q : List Datagram) (d : Bytes)
    (h : (queueEnv base q).recv = .datagram d) : ∃ g rest, q = g :: rest ∧ d = g.bytes := by
  unfold queueEnv at h
  cases hb : base.recv with
  | error =>
    simp only [hb] at h
    cases h
  | datagram b =>
    cases q with
    | nil =>
      simp only [hb] at h
      cases h
    | cons g rest =>
      simp only [hb] at h
      exact ⟨g, rest, rfl, (RecvResult.datagram.inj h).symm⟩

theorem queueEnv_poll (base : Env) (q : List Datagram) :
    (queueEnv base q).poll = .ready ↔ base.poll ≠ .failed ∧ q ≠ [] := by
  unfold queueEnv
  simp only
  split_ifs with h1 h2
  · simp [h1]
  · simp [h2]
  · simp [h1, h2]

theorem queueEnv_recv_error (base : Env) (q : List Datagram) (h : (queueEnv base q).recv = .error) :
    base.recv = .error ∨ q = [] := by
  unfold queueEnv at h
  cases hb : base.recv with
  | error => exact Or.inl rfl
  | datagram b =>
    cases q with
    | nil => exact Or.inr rfl
    | cons g rest =>
      simp only [hb] at h
      cases h

/- The ways a call can end: nothing was transmitted, no datagram was taken, or
the oldest datagram of the queue was. The number of the request is the last
counter value issued, and its low byte stands in the outermost header. -/
theorem call_cases (o : ByteOrder) (s : Session) (c : Turn) (m : MctpTransport)
    (hm : s.ep.transportData = some (.mctp m)) (hn : m.nid ≠ mockMagic) :
    ∃ r j, s.call o c = some r ∧
      r.st = { s.ep with transportData := some (.mctp (m.advance (j + 1))) } ∧
      ((requestOf c r = none ∧ r.taken = none ∧ r.rc = -1) ∨
        ∃ tReq, requestOf c r = some ⟨m.tag + j, transferred tReq, tunnelDepth c.ti, c.rspSz, c.rspMin⟩ ∧
          tag tReq = uint8 ((m.tag + j : ℕ) : ℤ) ∧ tReq.length = 16 * tunnelDepth c.ti + 12 + c.pl.length ∧
          ((r.taken = none ∧ r.rc = -1 ∧ (c.env.poll ≠ .failed → c.env.recv ≠ .error →
              tReq.length ≤ maxRwCount → s.queue c.sock = [])) ∨
            ∃ g rest, s.queue c.sock = g :: rest ∧ r.taken.isSome ∧
              r.rc = judge (nestReports o (mctpRule c.rspSz c.rspMin) (tunnelDepth c.ti) tReq
                (received (16 * tunnelDepth c.ti + c.rspSz) g.bytes)))) := by
  unfold Session.call
  rw [armCciRequest_mctp o s.ep m c.set c.cmd c.pl hm hn]
  set req := cciHeader o (uint8 m.tag) c.cmd c.set c.pl.length ++ c.pl with hreq
  set ep1 : Endpoint := { s.ep with transportData := some (.mctp (m.advance 1)) } with hep1
  set env := queueEnv c.env (s.queue c.sock) with henv
  cases hr : refused ep1 c.ti req with
  | true =>
    refine ⟨failOutcome c.rspSz ep1, 0, ?_, rfl, Or.inl ⟨rfl, rfl, rfl⟩⟩
    exact sendCmdCci_refused o env ep1 c.ti req c.rspSz c.rspMin hr
  | false =>
    have hs := sendCmdCci_mctp o env ep1 (m.advance 1) c.ti req c.rspSz c.rspMin hr rfl hn
    set r := sendMctp o env (m.advance 1) (cmdIsFmapi (commandSet req)) c.ti req c.rspSz c.rspMin with hrdef
    rcases sendMctp_effect o env (m.advance 1) _ c.ti req c.rspSz c.rspMin r hrdef with
      ⟨-, hsent, htaken, hrc, n, hst⟩ | ⟨k, tReq, hb, hst, heff⟩
    · refine ⟨_, n, hs, ?_, Or.inl ⟨?_, htaken, hrc⟩⟩
      · simp only [Outcome.map, hst, advance_advance, Nat.add_comm 1 n]
        rfl
      · simp only [requestOf, Outcome.map, hsent]
    · have hst' : (r.map fun m => { ep1 with transportData := some (.mctp m) }).st =
          { s.ep with transportData := some (.mctp (m.advance (k + 1))) } := by
        simp only [Outcome.map, hst, advance_advance, Nat.add_comm 1 k]
        rfl
      have htag : tag tReq = uint8 ((m.tag + k : ℕ) : ℤ) := by
        rcases mctpBuild_tag o env (m.advance 1) c.ti req k tReq hb with ⟨rfl, rfl⟩ | ⟨hk, ht⟩
        · rfl
        · rw [ht]
          congr 2
          simp only [MctpTransport.advance]
          omega
      obtain ⟨rfl, hlen⟩ := mctpBuild_depth o env (m.advance 1) c.ti req k tReq hb
      have hlen' : tReq.length = 16 * tunnelDepth c.ti + 12 + c.pl.length := by
        rw [hlen, hreq, List.length_append, cciHeader_length]
        omega
      refine ⟨_, tunnelDepth c.ti, hs, hst', ?_⟩
      have hnum : ∀ sd addr, r.sent = [.mctp sd addr (transferred tReq)] →
          requestOf c (r.map fun m => { ep1 with transportData := some (.mctp m) }) =
            some ⟨m.tag + tunnelDepth c.ti, transferred tReq, tunnelDepth c.ti, c.rspSz, c.rspMin⟩ := by
        intro sd addr hsent
        unfold requestOf
        rw [hst']
        simp only [Outcome.map, hsent, counter, MctpTransport.advance]
        rfl
      rcases heff with ⟨hsent, htaken, hrc⟩ | ⟨hsent, htaken, hrc, hwhy⟩ | ⟨d, -, hd, hsent, htaken, hrc⟩
      · refine Or.inl ⟨?_, htaken, hrc⟩
        simp only [requestOf, Outcome.map, hsent]
      · refine Or.inr ⟨tReq, hnum _ _ hsent, htag, hlen', Or.inl ⟨htaken, hrc, fun hp he hl => ?_⟩⟩
        by_contra hq
        refine hwhy ((queueEnv_poll c.env (s.queue c.sock)).mpr ⟨hp, hq⟩) (fun herr => ?_) hl
        rcases queueEnv_recv_error c.env (s.queue c.sock) herr with h | h
        · exact he h
        · exact hq h
      · obtain ⟨g, rest, hq, rfl⟩ := queueEnv_recv c.env (s.queue c.sock) d hd
        refine Or.inr ⟨tReq, hnum _ _ hsent, htag, hlen', Or.inr ⟨g, rest, hq, ?_, hrc⟩⟩
        simp only [Outcome.map, htaken, Option.isSome_some]

/-! ### What one event does to the session -/

theorem deliver_queue (s : Session) (k : Sock) (gs : List Datagram) :
    (s.deliver k gs).queue k = s.queue k ++ gs := by
  simp only [Session.deliver, Function.update_self]

theorem deliver_mem (s : Session) (k j : Sock) (gs : List Datagram) (g : Datagram)
    (h : g ∈ (s.deliver k gs).queue j) : g ∈ s.queue j ∨ (j = k ∧ g ∈ gs) := by
  by_cases hj : j = k
  · subst hj
    rw [deliver_queue, List.mem_append] at h
    exact h.imp id fun hg => ⟨rfl, hg⟩
  · simp only [Session.deliver, Function.update_of_ne hj] at h
    exact Or.inl h

theorem settle_transmitted_mem (s : Session) (c : Turn) (j : Sock) (r : Outcome Endpoint) (q : Request) :
    q ∈ (s.settle c r).transmitted j ↔ q ∈ s.transmitted j ∨ (j = c.sock ∧ requestOf c r = some q) := by
  unfold Session.settle
  by_cases hj : j = c.sock
  · subst hj
    simp only [Function.update_self, List.mem_append, Option.mem_toList, true_and]
  · simp only [Function.update_of_ne hj, hj, false_and, or_false]

theorem settle_queue_mem (s : Session) (c : Turn) (j : Sock) (r : Outcome Endpoint) (g : Datagram)
    (h : g ∈ (s.settle c r).queue j) : g ∈ s.queue j := by
  unfold Session.settle at h
  simp only at h
  split_ifs at h
  · by_cases hj : j = c.sock
    · subst hj
      rw [Function.update_self] at h
      exact List.mem_of_mem_tail h
    · rw [Function.update_of_ne hj] at h
      exact h
  · exact h

theorem step_command (o : ByteOrder) (s : Session) (c : Turn) (r : Outcome Endpoint)
    (h : (s.deliver c.sock c.during).call o c = some r) :
    s.step o (.command c) = ((s.deliver c.sock c.during).settle c r,
      some ⟨r.rc, (requestOf c r).map Request.number,
        if r.taken.isSome then (s.queue c.sock ++ c.during).head? else none⟩) := by
  simp only [Session.step, h, deliver_queue]

theorem tag_transferred (msg : Bytes) : tag (transferred msg) = tag msg :=
  byteAt_take msg maxRwCount 1 (by decide)

/- Identify, with the datagrams that arrive while it waits. -/
def identifyTurn (during : List Datagram) : Turn :=
  ⟨none, 0x00, 0x01, [], 30, 30, socketDelivers [], during⟩

end LibCxlmi.Run
