import LibCxlmi.Transport.HostOrder
import LibCxlmi.Commands.Sizes

/-!
# A command on two hosts

The same command, from equal endpoints and against the same device, on a
little-endian and on a big-endian host. Of a run the caller sees the code and
the filled result, the device (or the mock) what was transmitted. This module
has the cases in which the two runs look the same.
-/

namespace LibCxlmi.Contract
open LibCxlmi.Word LibCxlmi.Cci LibCxlmi.Transport LibCxlmi.Commands

variable {α : Type}

structure Seen (α : Type) where
  rc : ℤ
  value : Option α
  sent : List Tx
  recorded : Option Bytes
  deriving DecidableEq

def seen (r : Reply α) : Seen α := ⟨r.rc, r.value, r.sent, recorded r.st⟩

def view (c : CciCommand α) (o : ByteOrder) (env : Env) (ep : Endpoint) (ti : Option TunnelInfo) :
    Option (Seen α) :=
  (c.run o env ep ti).map seen

/-- The replies of a mock are part of its endpoint. -/
def withResponses (q : List MockResponse) (ep : Endpoint) : Endpoint :=
  match ep.transportData with
  | some (.mock k) => { ep with transportData := some (.mock { k with responses := q }) }
  | _ => ep

/-- No device and no configured reply makes the two runs differ. -/
def HostIndependent (c : CciCommand α) (ep : Endpoint) (ti : Option TunnelInfo) : Prop :=
  ∀ env q, view c .little env (withResponses q ep) ti = view c .big env (withResponses q ep) ti

def send (c : CciCommand α) (o : ByteOrder) (env : Env) (ep : Endpoint) (ti : Option TunnelInfo) (pl : Bytes) :
    Option (Outcome Endpoint) :=
  sendCmdCci o env (armCciRequest o ep c.set c.cmd pl).2 ti (armCciRequest o ep c.set c.cmd pl).1
    (c.rspSz o) (c.rspMin o)

def unseen (ep : Endpoint) : Seen α := ⟨-1, none, [], recorded ep⟩

/-! ### One run -/

theorem recorded_armed (o : ByteOrder) (ep : Endpoint) (set cmd : Byte) (pl : Bytes) :
    recorded (armCciRequest o ep set cmd pl).2 = recorded ep := by
  obtain ⟨tg, st, hst, harm⟩ := armed_eq ep set cmd
  rw [harm]
  exact hst

theorem view_not_admitted (c : CciCommand α) (o : ByteOrder) (env : Env) (ep : Endpoint) (ti : Option TunnelInfo)
    (h : c.admitted = false) : view c o env ep ti = some (unseen ep) := by
  rw [view, CciCommand.run, if_pos h]
  rfl

theorem view_eq (c : CciCommand α) (o : ByteOrder) (env : Env) (ep : Endpoint) (ti : Option TunnelInfo)
    (pl : Bytes) (had : c.admitted = true) (hpl : c.payload o = some pl) :
    view c o env ep ti =
      if (c.reqHeap = true ∧ env.alloc .request ((12 + c.plSz) % 2 ^ 64) = false) ∨ c.supported = false ∨
          (c.rspHeap = true ∧ env.alloc .response (c.rspSz o) = false) then some (unseen ep)
      else ((send c o env ep ti pl).bind (c.finish o)).map seen := by
  have had : ¬c.admitted = false := by
    rw [had]
    decide
  rw [view, CciCommand.run, if_neg had, hpl, Option.bind_some, CciCommand.exchange]
  by_cases hreq : c.reqHeap = true ∧ env.alloc .request ((12 + c.plSz) % 2 ^ 64) = false
  · rw [if_pos hreq, if_pos (Or.inl hreq)]
    rfl
  · rw [if_neg hreq]
    by_cases hrsp : c.supported = false ∨ (c.rspHeap = true ∧ env.alloc .response (c.rspSz o) = false)
    · rw [if_pos hrsp, if_pos (Or.inr hrsp), Option.map_some, seen, recorded_armed]
      rfl
    · rw [if_neg hrsp, if_neg (not_or.mpr ⟨hreq, hrsp⟩)]
      rfl

theorem view_no_payload (c : CciCommand α) (o : ByteOrder) (env : Env) (ep : Endpoint) (ti : Option TunnelInfo)
    (had : c.admitted = true) (hpl : c.payload o = none) :
    view c o env ep ti =
      if c.reqHeap = true ∧ env.alloc .request ((12 + c.plSz) % 2 ^ 64) = false then some (unseen ep) else none := by
  have had : ¬c.admitted = false := by
    rw [had]
    decide
  rw [view, CciCommand.run, if_neg had, hpl, Option.bind_none]
  split_ifs
  · rfl
  · rfl

/-! ### Exchanges that agree -/

/-- Outcomes that end in the same view of the command. -/
structure Agree (c : CciCommand α) (a b : Outcome Endpoint) : Prop where
  rc : a.rc = b.rc
  sent : a.sent = b.sent
  recorded : recorded a.st = recorded b.st
  decode : c.decode .little a.rsp = c.decode .big b.rsp

theorem agree_of_alike (c : CciCommand α) (hc : Neutral c) (a b : Outcome Endpoint) (h : Alike a b) : Agree c a b :=
  ⟨h.rc, h.sent, h.recorded, hc.decode a.rsp b.rsp h.payload h.plLength⟩

theorem finish_agree (c : CciCommand α) (a b : Outcome Endpoint) (h : Agree c a b) :
    (c.finish .little a).map seen = (c.finish .big b).map seen := by
  unfold CciCommand.finish
  rw [h.rc, h.decode]
  split_ifs
  · simp only [Option.map_some, seen, h.sent, h.recorded]
  · simp only [Option.map_map, Function.comp_def, seen, h.sent, h.recorded]

theorem bind_agree (c : CciCommand α) (a b : Option (Outcome Endpoint)) (h : Option.Rel (Agree c) a b) :
    (a.bind (c.finish .little)).map seen = (b.bind (c.finish .big)).map seen := by
  cases h with
  | none => rfl
  | some h => exact finish_agree c _ _ h

theorem view_agree (c : CciCommand α) (env : Env) (ep : Endpoint) (ti : Option TunnelInfo) (plL plB : Bytes)
    (had : c.admitted = true) (hL : c.payload .little = some plL) (hB : c.payload .big = some plB)
    (hsz : c.rspSz .little = c.rspSz .big)
    (hs : Option.Rel (Agree c) (send c .little env ep ti plL) (send c .big env ep ti plB)) :
    view c .little env ep ti = view c .big env ep ti := by
  rw [view_eq c .little env ep ti plL had hL, view_eq c .big env ep ti plB had hB, hsz, bind_agree c _ _ hs]

/-! ### Commands that are not transmitted -/

theorem send_confused (c : CciCommand α) (o : ByteOrder) (env : Env) (ep : Endpoint) (ti : Option TunnelInfo)
    (pl : Bytes) (h : Confused ep ti c.set) : send c o env ep ti pl = none := by
  apply sendCmdCci_of_confused
  rw [commandSet_armed, confused_armed]
  exact h

theorem send_silent (c : CciCommand α) (o : ByteOrder) (env : Env) (ep : Endpoint) (ti : Option TunnelInfo)
    (pl : Bytes) (h : Silent ep ti c.set) (hc : ¬Confused ep ti c.set) :
    ∃ st, send c o env ep ti pl = some (failOutcome (c.rspSz o) st) ∧ recorded st = recorded ep := by
  have hsil : Silent (armCciRequest o ep c.set c.cmd pl).2 ti (commandSet (armCciRequest o ep c.set c.cmd pl).1) := by
    rw [commandSet_armed, silent_armed]
    exact h
  have hcon : ¬Confused (armCciRequest o ep c.set c.cmd pl).2 ti
      (commandSet (armCciRequest o ep c.set c.cmd pl).1) := by
    rw [commandSet_armed, confused_armed]
    exact hc
  obtain ⟨st, hs, hrec⟩ := sendCmdCci_silent o env _ ti _ (c.rspSz o) (c.rspMin o) hsil hcon
  exact ⟨st, hs, hrec.trans (recorded_armed o ep c.set c.cmd pl)⟩

/- The response is not looked at, so its size does not matter. -/
theorem view_silent (c : CciCommand α) (o : ByteOrder) (env : Env) (ep : Endpoint) (ti : Option TunnelInfo)
    (pl : Bytes) (had : c.admitted = true) (hpl : c.payload o = some pl) (hch : c.checked = true)
    (h : Silent ep ti c.set) (hc : ¬Confused ep ti c.set) : view c o env ep ti = some (unseen ep) := by
  obtain ⟨st, hs, hrec⟩ := send_silent c o env ep ti pl h hc
  have hfin : c.finish o (failOutcome (c.rspSz o) st) = some ⟨-1, none, [], st⟩ :=
    c.finish_failed o _ hch (show (-1 : ℤ) ≠ 0 by decide)
  rw [view_eq c o env ep ti pl had hpl, hs, Option.bind_some, hfin, Option.map_some, seen, hrec]
  split_ifs
  · rfl
  · rfl

theorem view_silent_neutral (c : CciCommand α) (env : Env) (ep : Endpoint) (ti : Option TunnelInfo)
    (pl : Bytes) (hn : Neutral c) (had : c.admitted = true) (hpl : c.payload .little = some pl)
    (h : Silent ep ti c.set) (hc : ¬Confused ep ti c.set) :
    view c .little env ep ti = view c .big env ep ti := by
  obtain ⟨stL, hL, hrecL⟩ := send_silent c .little env ep ti pl h hc
  obtain ⟨stB, hB, hrecB⟩ := send_silent c .big env ep ti pl h hc
  refine view_agree c env ep ti pl pl had hpl (hn.payload ▸ hpl) hn.rspSz ?_
  rw [hL, hB, hn.rspSz]
  exact .some (agree_of_alike c hn _ _ ⟨rfl, rfl, hrecL.trans hrecB.symm, rfl, rfl⟩)

/-! ### Commands without a tunnel -/

theorem send_mock (c : CciCommand α) (o : ByteOrder) (env : Env) (ep : Endpoint) (ti : Option TunnelInfo)
    (pl : Bytes) (k : MockTransport) (hk : ep.transportData = some (.mock k)) (h : ¬Silent ep ti c.set) :
    send c o env ep ti pl =
      some ((sendMockCmd o env k (cciHeader o 0 c.cmd c.set pl.length ++ pl) (c.rspSz o)).map
        fun k => { ep with transportData := some (.mock k) }) := by
  rw [send, armed_mock o ep c.set c.cmd pl k hk]
  exact sendCmdCci_mock o env ep k ti _ _ _ (not_refused ep ti _ h) hk

theorem send_mailbox (c : CciCommand α) (o : ByteOrder) (env : Env) (ep : Endpoint) (ti : Option TunnelInfo)
    (pl : Bytes) (htd : ep.transportData = none) (h : ¬Silent ep ti c.set) :
    send c o env ep ti pl =
      some ((sendIoctl o env ep.fd ti (cciHeader o 0 c.cmd c.set pl.length ++ pl) (c.rspSz o) (c.rspMin o)).map
        fun _ => ep) := by
  rw [send, armed_mailbox o ep c.set c.cmd pl htd]
  exact sendCmdCci_ioctl o env ep ti _ _ _ (not_refused ep ti _ h) htd

theorem known_of_mailbox (ep : Endpoint) (ti : Option TunnelInfo) (set : Byte) (htd : ep.transportData = none)
    (h : ¬Silent ep ti set) : knownLevel ti = true ∧ 0 ≤ ep.fd := by
  rw [Silent, htd, not_or, not_or] at h
  obtain ⟨hk, hfd⟩ := not_or.mp h.2.2
  exact ⟨Bool.not_eq_false _ ▸ hk, not_lt.mp hfd⟩

theorem sendIoctl_untunnelled (o : ByteOrder) (env : Env) (fd : ℤ) (ti : Option TunnelInfo) (req : Bytes)
    (rspSz rspMin : ℕ) (hk : knownLevel ti = true) (hd : tunnelDepth ti = 0) :
    sendIoctl o env fd ti req rspSz rspMin = sendIoctlDirect env fd req rspSz := by
  cases ti with
  | none => rfl
  | some t =>
    have hd : t.level.toNat = 0 := hd
    exact sendIoctl_direct o env fd t req rspSz rspMin (by have := knownLevel_cases t hk; omega)

theorem view_mock_neutral (c : CciCommand α) (env : Env) (ep : Endpoint) (ti : Option TunnelInfo)
    (pl : Bytes) (k : MockTransport) (hn : Neutral c) (had : c.admitted = true) (hpl : c.payload .little = some pl)
    (hk : ep.transportData = some (.mock k)) (h : ¬Silent ep ti c.set) :
    view c .little env ep ti = view c .big env ep ti := by
  refine view_agree c env ep ti pl pl had hpl (hn.payload ▸ hpl) hn.rspSz ?_
  rw [send_mock c .little env ep ti pl k hk h, send_mock c .big env ep ti pl k hk h, hn.rspSz]
  exact .some (agree_of_alike c hn _ _ (sendMockCmd_alike env ep k 0 c.cmd c.set pl _))

/- The mailbox does the same on both hosts; what is left is to read the response
alike. -/
theorem view_direct (c : CciCommand α) (env : Env) (ep : Endpoint) (ti : Option TunnelInfo) (pl : Bytes)
    (had : c.admitted = true) (hL : c.payload .little = some pl) (hB : c.payload .big = some pl)
    (hsz : c.rspSz .little = c.rspSz .big) (htd : ep.transportData = none) (h : ¬Silent ep ti c.set)
    (hd : tunnelDepth ti = 0)
    (hdec : ∀ req, c.decode .little (sendIoctlDirect env ep.fd req (c.rspSz .big)).rsp =
      c.decode .big (sendIoctlDirect env ep.fd req (c.rspSz .big)).rsp) :
    view c .little env ep ti = view c .big env ep ti := by
  have hk := (known_of_mailbox ep ti c.set htd h).1
  refine view_agree c env ep ti pl pl had hL hB hsz ?_
  rw [send_mailbox c .little env ep ti pl htd h, send_mailbox c .big env ep ti pl htd h,
    sendIoctl_untunnelled .little _ _ _ _ _ _ hk hd, sendIoctl_untunnelled .big _ _ _ _ _ _ hk hd, hsz,
    sendIoctlDirect_orders]
  exact .some ⟨rfl, rfl, rfl, hdec _⟩

/-! ### Tunnels -/

/-- The message handed to the mailbox is so long that `in.size` wraps and no
more than the header of the outer tunnel is transmitted. -/
def Cut (depth plSz : ℕ) : Prop := u32 (16 * depth + plSz) ≤ 4

theorem mailboxInner_length (o : ByteOrder) (t : TunnelInfo) (req : Bytes) (hk : knownLevel (some t) = true)
    (hd : tunnelDepth (some t) ≠ 0) :
    (mailboxInner o t req).length + 16 = 16 * tunnelDepth (some t) + req.length := by
  have hl := knownLevel_cases t hk
  have hdep : tunnelDepth (some t) = t.level.toNat := rfl
  unfold mailboxInner
  split_ifs
  · omega
  · rw [buildTunnelReq_length]
    omega

theorem cut_iff (o : ByteOrder) (t : TunnelInfo) (tg cmd set : Byte) (pl : Bytes) (hk : knownLevel (some t) = true)
    (hd : tunnelDepth (some t) ≠ 0) :
    4 + (mailboxInner o t (cciHeader o tg cmd set pl.length ++ pl)).length =
      16 * tunnelDepth (some t) + pl.length := by
  have hlen := mailboxInner_length o t (cciHeader o tg cmd set pl.length ++ pl) hk hd
  rw [request_length] at hlen
  omega

theorem mailboxTx_cut (fd : ℤ) (t : TunnelInfo) (tg cmd set : Byte) (pl : Bytes) (hk : knownLevel (some t) = true)
    (hd : tunnelDepth (some t) ≠ 0) (h : Cut (tunnelDepth (some t)) pl.length) :
    mailboxTx fd 0x5300 (mailboxTunnelReq .little t (cciHeader .little tg cmd set pl.length ++ pl)) =
      mailboxTx fd 0x5300 (mailboxTunnelReq .big t (cciHeader .big tg cmd set pl.length ++ pl)) := by
  have hL := cut_iff .little t tg cmd set pl hk hd
  have hB := cut_iff .big t tg cmd set pl hk hd
  have htake := ioctlTunnelReq_take_eq (outerId t) _ _ (Nat.add_left_cancel (hL.trans hB.symm))
    (by rw [hL]; exact h)
  simp only [mailboxTx, mailboxTunnelReq_eq, ioctlTunnelReq_length]
  rw [htake, hL, hB]

theorem sendIoctl_cut (env : Env) (ep : Endpoint) (t : TunnelInfo) (tg cmd set : Byte) (pl : Bytes)
    (rspSz rspMin : ℕ) (hk : knownLevel (some t) = true) (hd : tunnelDepth (some t) ≠ 0)
    (h : Cut (tunnelDepth (some t)) pl.length) (hna : ¬Answerable (tunnelDepth (some t) - 1) rspSz rspMin) :
    Alike
      ((sendIoctl .little env ep.fd (some t) (cciHeader .little tg cmd set pl.length ++ pl) rspSz rspMin).map
        fun _ => ep)
      ((sendIoctl .big env ep.fd (some t) (cciHeader .big tg cmd set pl.length ++ pl) rspSz rspMin).map
        fun _ => ep) := by
  have hl := knownLevel_cases t hk
  have hdep : tunnelDepth (some t) = t.level.toNat := rfl
  have htx := mailboxTx_cut ep.fd t tg cmd set pl hk hd h
  rw [sendIoctl_tunnel .little env ep.fd t _ rspSz rspMin (by omega),
    sendIoctl_tunnel .big env ep.fd t _ rspSz rspMin (by omega)]
  simp only [mailboxBuild, request_length]
  by_cases h1 : t.level = 1 ∧ env.alloc .tunnelReq (4 + (12 + pl.length)) = true
  · rw [if_pos h1, if_pos h1]
    exact sendIoctlTunnelled_unanswerable env ep 0 _ _ rspSz rspMin htx
      (by rwa [hdep, h1.1] at hna)
  · rw [if_neg h1, if_neg h1]
    by_cases h2 : t.level = 2 ∧ env.alloc .tunnelReq (16 + (12 + pl.length)) = true ∧
        env.alloc .outerReq (20 + (12 + pl.length)) = true
    · rw [if_pos h2, if_pos h2]
      exact sendIoctlTunnelled_unanswerable env ep 1 _ _ rspSz rspMin htx
        (by rwa [hdep, h2.1] at hna)
    · rw [if_neg h2, if_neg h2]
      exact alike_refl _

theorem view_cut (c : CciCommand α) (env : Env) (ep : Endpoint) (t : TunnelInfo) (pl : Bytes) (hn : Neutral c)
    (had : c.admitted = true) (hpl : c.payload .little = some pl) (htd : ep.transportData = none)
    (h : ¬Silent ep (some t) c.set) (hd : tunnelDepth (some t) ≠ 0) (hcut : Cut (tunnelDepth (some t)) pl.length)
    (hna : ¬Answerable (tunnelDepth (some t) - 1) (c.rspSz .little) (c.rspMin .little)) :
    view c .little env ep (some t) = view c .big env ep (some t) := by
  have hk := (known_of_mailbox ep (some t) c.set htd h).1
  refine view_agree c env ep (some t) pl pl had hpl (hn.payload ▸ hpl) hn.rspSz ?_
  rw [send_mailbox c .little env ep (some t) pl htd h, send_mailbox c .big env ep (some t) pl htd h, ← hn.rspSz,
    ← hn.rspMin]
  exact .some (agree_of_alike c hn _ _ (sendIoctl_cut env ep t 0 c.cmd c.set pl _ _ hk hd hcut hna))

end LibCxlmi.Contract
