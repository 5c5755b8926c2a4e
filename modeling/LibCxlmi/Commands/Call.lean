import LibCxlmi.Word.Field
import LibCxlmi.Transport.Served
import LibCxlmi.Transport.Success

/-!
# The command functions of commands.c

All of them go the same way: check the arguments, allocate and arm the request,
fill its payload, allocate the response, send, and on success copy the fields
of the response out. `CciCommand` is what they differ in and `run` the way they
go. The functions themselves are in the modules below; most have one of the
four shapes at the end of this one.

`run` is `none` where the C is undefined: the transport data is mistaken, the
request is filled past its end, or the response is read past its end.
-/

namespace LibCxlmi.Commands
open LibCxlmi.Word LibCxlmi.Cci LibCxlmi.Transport

/-- `admitted` and `supported` are the checks on the arguments, before and after
the request is armed; a message that is not on the heap is a local variable. -/
structure CciCommand (α : Type) where
  admitted : Bool
  set : Byte
  cmd : Byte
  reqHeap : Bool
  plSz : ℕ
  payload : ByteOrder → Option Bytes
  supported : Bool
  rspHeap : Bool
  rspSz : ByteOrder → ℕ
  rspMin : ByteOrder → ℕ
  /-- Whether the response is only looked at after a zero code. -/
  checked : Bool
  decode : ByteOrder → Bytes → Option α
  framed : ∀ o pl, payload o = some pl → pl.length = plSz

/-- What the caller gets: `value` is what its result structure was filled with,
if it was written at all. -/
structure Reply (α : Type) where
  rc : ℤ
  value : Option α
  sent : List Tx
  st : Endpoint

variable {α : Type}

def CciCommand.finish (c : CciCommand α) (o : ByteOrder) (r : Outcome Endpoint) : Option (Reply α) :=
  if c.checked = true ∧ r.rc ≠ 0 then some ⟨r.rc, none, r.sent, r.st⟩
  else (c.decode o r.rsp).map fun v => ⟨r.rc, some v, r.sent, r.st⟩

def CciCommand.exchange (c : CciCommand α) (o : ByteOrder) (env : Env) (ep : Endpoint)
    (ti : Option TunnelInfo) (pl : Bytes) : Option (Reply α) :=
  let armed := armCciRequest o ep c.set c.cmd pl
  if c.supported = false ∨ (c.rspHeap = true ∧ env.alloc .response (c.rspSz o) = false) then
    some ⟨-1, none, [], armed.2⟩
  else (sendCmdCci o env armed.2 ti armed.1 (c.rspSz o) (c.rspMin o)).bind (c.finish o)

def CciCommand.run (c : CciCommand α) (o : ByteOrder) (env : Env) (ep : Endpoint)
    (ti : Option TunnelInfo) : Option (Reply α) :=
  if c.admitted = false then some ⟨-1, none, [], ep⟩
  else if c.reqHeap = true ∧ env.alloc .request ((12 + c.plSz) % 2 ^ 64) = false then some ⟨-1, none, [], ep⟩
  else (c.payload o).bind (c.exchange o env ep ti)

/-! ### What a run does -/

theorem CciCommand.finish_eq (c : CciCommand α) (o : ByteOrder) (s : Outcome Endpoint) (r : Reply α)
    (h : c.finish o s = some r) : r.rc = s.rc ∧ r.sent = s.sent ∧ r.st = s.st := by
  unfold CciCommand.finish at h
  split_ifs at h
  · exact Option.some.inj h ▸ ⟨rfl, rfl, rfl⟩
  · obtain ⟨v, -, rfl⟩ := Option.map_eq_some_iff.mp h
    exact ⟨rfl, rfl, rfl⟩

theorem CciCommand.run_cases (c : CciCommand α) (o : ByteOrder) (env : Env) (ep : Endpoint)
    (ti : Option TunnelInfo) (r : Reply α) (h : c.run o env ep ti = some r) :
    (r.sent = [] ∧ (r.st = ep ∨ ∃ pl, r.st = (armCciRequest o ep c.set c.cmd pl).2)) ∨
      ∃ pl s, c.admitted = true ∧ c.payload o = some pl ∧ c.supported = true ∧
        sendCmdCci o env (armCciRequest o ep c.set c.cmd pl).2 ti (armCciRequest o ep c.set c.cmd pl).1
          (c.rspSz o) (c.rspMin o) = some s ∧
        c.finish o s = some r := by
  unfold CciCommand.run at h
  split_ifs at h with had
  · exact Or.inl (Option.some.inj h ▸ ⟨rfl, Or.inl rfl⟩)
  · exact Or.inl (Option.some.inj h ▸ ⟨rfl, Or.inl rfl⟩)
  · obtain ⟨pl, hpl, h⟩ := Option.bind_eq_some_iff.mp h
    unfold CciCommand.exchange at h
    simp only at h
    split_ifs at h with hsup
    · exact Or.inl (Option.some.inj h ▸ ⟨rfl, Or.inr ⟨pl, rfl⟩⟩)
    · obtain ⟨s, hs, h⟩ := Option.bind_eq_some_iff.mp h
      rw [Bool.not_eq_false] at had
      exact Or.inr ⟨pl, s, had, hpl, Bool.not_eq_false _ ▸ (not_or.mp hsup).1, hs, h⟩

theorem CciCommand.run_sends (c : CciCommand α) (o : ByteOrder) (env : Env) (ep : Endpoint)
    (ti : Option TunnelInfo) (pl : Bytes) (had : c.admitted = true) (hpl : c.payload o = some pl)
    (hsup : c.supported = true) (hreq : env.alloc .request ((12 + c.plSz) % 2 ^ 64) = true)
    (hrsp : env.alloc .response (c.rspSz o) = true) :
    c.run o env ep ti =
      (sendCmdCci o env (armCciRequest o ep c.set c.cmd pl).2 ti (armCciRequest o ep c.set c.cmd pl).1
        (c.rspSz o) (c.rspMin o)).bind (c.finish o) := by
  simp only [CciCommand.run, CciCommand.exchange, had, hpl, hsup, hreq, hrsp, Bool.true_eq_false, and_false, or_self,
    if_false, Option.bind_some]

theorem CciCommand.finish_failed (c : CciCommand α) (o : ByteOrder) (s : Outcome Endpoint)
    (hc : c.checked = true) (h : s.rc ≠ 0) : c.finish o s = some ⟨s.rc, none, s.sent, s.st⟩ :=
  if_pos ⟨hc, h⟩

/-- A failed exchange is reported: the response is not looked at, or its zeroed
buffer can be. -/
def CciCommand.Finishes (c : CciCommand α) (o : ByteOrder) : Prop :=
  c.checked = true ∨ ∃ v, c.decode o (zeros (c.rspSz o)) = some v

theorem CciCommand.finish_zeros (c : CciCommand α) (o : ByteOrder) (s : Outcome Endpoint) (hfin : c.Finishes o)
    (hrc : s.rc ≠ 0) (hrsp : s.rsp = zeros (c.rspSz o)) : ∃ r, c.finish o s = some r := by
  rcases hfin with hch | ⟨v, hv⟩
  · exact ⟨_, c.finish_failed o s hch hrc⟩
  · unfold CciCommand.finish
    split_ifs
    · exact ⟨_, rfl⟩
    · rw [hrsp, hv]
      exact ⟨_, rfl⟩

theorem CciCommand.run_takesAll (c : CciCommand α) (o : ByteOrder) (ep : Endpoint) (ti : Option TunnelInfo)
    (pl : Bytes) (tx : Tx) (had : c.admitted = true) (hpl : c.payload o = some pl) (hsup : c.supported = true)
    (hfin : c.Finishes o) (hpath : ¬(ep.transportData = none ∧ tunnelDepth ti = 0))
    (hout : outbound o (armCciRequest o ep c.set c.cmd pl).2 ti (armCciRequest o ep c.set c.cmd pl).1 = some tx) :
    ∃ r, c.run o takesAll ep ti = some r ∧ r.sent = [tx] := by
  obtain ⟨s, hs, hsent, hrc⟩ := sendCmdCci_takesAll o _ ti _ (c.rspSz o) (c.rspMin o) tx hout
  have hfail : s.rc = -1 ∧ s.rsp = zeros (c.rspSz o) := by
    refine hrc.resolve_right fun ⟨htd, hd⟩ => hpath ⟨?_, hd⟩
    exact (armed_mailbox_iff o ep c.set c.cmd pl).mp htd
  obtain ⟨r, hr⟩ := c.finish_zeros o s hfin (by rw [hfail.1]; decide) hfail.2
  rw [c.run_sends o takesAll ep ti pl had hpl hsup rfl rfl, hs, Option.bind_some, hr]
  exact ⟨r, rfl, by rw [(c.finish_eq o s r hr).2.1, hsent]⟩

/-- The run gets as far as `send_cmd_cci`, which comes back with `s`. -/
structure CciCommand.Sends (c : CciCommand α) (o : ByteOrder) (env : Env) (ep : Endpoint) (ti : Option TunnelInfo)
    (pl : Bytes) (s : Outcome Endpoint) : Prop where
  admitted : c.admitted = true
  request : ¬(c.reqHeap = true ∧ env.alloc .request ((12 + c.plSz) % 2 ^ 64) = false)
  payload : c.payload o = some pl
  response : ¬(c.supported = false ∨ (c.rspHeap = true ∧ env.alloc .response (c.rspSz o) = false))
  call : sendCmdCci o env (armCciRequest o ep c.set c.cmd pl).2 ti (armCciRequest o ep c.set c.cmd pl).1
    (c.rspSz o) (c.rspMin o) = some s

theorem CciCommand.run_of_sends (c : CciCommand α) (o : ByteOrder) (env : Env) (ep : Endpoint) (ti : Option TunnelInfo)
    (pl : Bytes) (s : Outcome Endpoint) (h : c.Sends o env ep ti pl s) : c.run o env ep ti = c.finish o s := by
  unfold CciCommand.run CciCommand.exchange
  rw [if_neg (by rw [h.admitted]; exact Bool.noConfusion), if_neg h.request, h.payload, Option.bind_some,
    if_neg h.response, h.call, Option.bind_some]

/-- A call that comes back with 0 leaves what the device returned. -/
theorem CciCommand.sends_leaves (c : CciCommand α) (o : ByteOrder) (env : Env) (ep : Endpoint) (ti : Option TunnelInfo)
    (pl : Bytes) (s : Outcome Endpoint) (h : c.Sends o env ep ti pl s) (h0 : s.rc = 0) :
    Leaves s.rsp (returned env ep ti c.set c.cmd (c.rspSz o)) (c.rspSz o) ∧
      (SizeChecked ep ti → c.rspMin o - 12 ≤ (returned env ep ti c.set c.cmd (c.rspSz o)).length) := by
  have hleft := sendCmdCci_success o env _ ti _ (c.rspSz o) (c.rspMin o) s h.call h0
  rwa [commandSet_armed, command_armed, returned_armed, sizeChecked_armed] at hleft

theorem CciCommand.run_of_accepted (c : CciCommand α) (o : ByteOrder) (env : Env) (ep : Endpoint)
    (ti : Option TunnelInfo) (pl : Bytes) (s : Outcome Endpoint) (h : c.Sends o env ep ti pl s) (h0 : s.rc = 0) :
    c.run o env ep ti = (c.decode o s.rsp).map fun v => ⟨0, some v, s.sent, s.st⟩ := by
  rw [c.run_of_sends o env ep ti pl s h]
  unfold CciCommand.finish
  rw [if_neg fun hc => hc.2 h0, h0]

/-- A run that returns 0 has gone through such a call. -/
theorem CciCommand.run_success (c : CciCommand α) (o : ByteOrder) (env : Env) (ep : Endpoint) (ti : Option TunnelInfo)
    (r : Reply α) (h : c.run o env ep ti = some r) (h0 : r.rc = 0) :
    ∃ pl s v, c.Sends o env ep ti pl s ∧ s.rc = 0 ∧ c.decode o s.rsp = some v ∧ r.value = some v := by
  unfold CciCommand.run at h
  split_ifs at h with had hreq
  · rw [← Option.some.inj h] at h0
    cases h0
  · rw [← Option.some.inj h] at h0
    cases h0
  obtain ⟨pl, hpl, h⟩ := Option.bind_eq_some_iff.mp h
  unfold CciCommand.exchange at h
  simp only at h
  split_ifs at h with hrsp
  · rw [← Option.some.inj h] at h0
    cases h0
  obtain ⟨s, hs, h⟩ := Option.bind_eq_some_iff.mp h
  have hrc : s.rc = 0 := by rw [← (c.finish_eq o s r h).1, h0]
  unfold CciCommand.finish at h
  rw [if_neg fun hc => hc.2 hrc] at h
  obtain ⟨v, hv, rfl⟩ := Option.map_eq_some_iff.mp h
  exact ⟨pl, s, v, ⟨Bool.not_eq_false _ ▸ had, hreq, hpl, hrsp, hs⟩, hrc, hv, rfl⟩

theorem CciCommand.run_unallocated (c : CciCommand α) (o : ByteOrder) (env : Env) (ep : Endpoint)
    (ti : Option TunnelInfo) (pl : Bytes) (r : Reply α) (hpl : c.payload o = some pl) (hheap : c.rspHeap = true)
    (hrsp : env.alloc .response (c.rspSz o) = false) (h : c.run o env ep ti = some r) : r.rc = -1 := by
  unfold CciCommand.run CciCommand.exchange at h
  rw [hpl, Option.bind_some, if_pos (Or.inr ⟨hheap, hrsp⟩)] at h
  split_ifs at h
  all_goals rw [← Option.some.inj h]

/-! ### A device that answers over MCTP -/

/-- The command with the payload `pl` is sent, and the datagram `d` comes back
with the message `r`, which answers it with success. -/
structure CciCommand.Replied (c : CciCommand α) (o : ByteOrder) (env : Env) (ep : Endpoint) (m : MctpTransport)
    (ti : Option TunnelInfo) (pl r d : Bytes) : Prop where
  endpoint : ep.transportData = some (.mctp m)
  heard : ¬Silent ep ti c.set
  served : Served env d
  payload : c.payload o = some pl
  wrapped : Wrapped o (tunnelDepth ti)
    (mctpMsg o (m.advance 1) ti (armCciRequest o ep c.set c.cmd pl).1) r d
  layer : CciLayer o (armCciRequest o ep c.set c.cmd pl).1 r

theorem CciCommand.run_replied (c : CciCommand α) (o : ByteOrder) (env : Env) (ep : Endpoint) (m : MctpTransport)
    (ti : Option TunnelInfo) (pl r d : Bytes) (h : c.Replied o env ep m ti pl r d) (had : c.admitted = true)
    (hsup : c.supported = true) (hlen : pl.length ≤ 2 ^ 20) (hsz : 32 + c.rspSz o < 2 ^ 63) :
    ∃ s, c.run o env ep ti = c.finish o s ∧ (s.rc = 0 ↔ c.rspMin o ≤ r.length ∧ r.length ≤ c.rspSz o) ∧
      (s.rc = 0 → s.rsp = fillBuf (c.rspSz o) r) := by
  have hnid := (not_silent_mctp ep m ti c.set h.endpoint h.heard).2.1
  have harm := armCciRequest_mctp o ep m c.set c.cmd pl h.endpoint hnid
  have hreq : ((armCciRequest o ep c.set c.cmd pl).1).length = 12 + pl.length := by
    rw [harm]
    exact request_length o _ c.cmd c.set _ pl
  have hm : (armCciRequest o ep c.set c.cmd pl).2.transportData = some (.mctp (m.advance 1)) := by rw [harm]
  have hpl := c.framed o pl h.payload
  have hheard : ¬Silent (armCciRequest o ep c.set c.cmd pl).2 ti
      (commandSet (armCciRequest o ep c.set c.cmd pl).1) := by
    rw [commandSet_armed, silent_armed]
    exact h.heard
  obtain ⟨s, hs, hrc, hrsp⟩ := sendCmdCci_served o env _ (m.advance 1) ti _ r d (c.rspSz o) (c.rspMin o) hm h.served
    hheard (by rw [hreq]; unfold maxRwCount; omega) hsz h.wrapped h.layer
  refine ⟨s, ?_, hrc, hrsp⟩
  rw [c.run_sends o env ep ti pl had h.payload hsup (h.served.alloc_of_lt _ _ (by omega))
    (h.served.alloc_of_lt _ _ (by omega)), hs, Option.bind_some]

/-! ### Shapes -/

/-- No payload either way. -/
def order (set cmd : Byte) : CciCommand Unit where
  admitted := true
  set := set
  cmd := cmd
  reqHeap := false
  plSz := 0
  payload _ := some []
  supported := true
  rspHeap := false
  rspSz _ := 12
  rspMin _ := 12
  checked := true
  decode _ _ := some ()
  framed _ _ h := by rw [← Option.some.inj h]; rfl

/-- No request payload, a response payload of `sz` bytes. -/
def query (set cmd : Byte) (sz : ℕ) (f : ByteOrder → Bytes → α) : CciCommand α :=
  { order set cmd with
    rspHeap := true
    rspSz := fun _ => 12 + sz
    rspMin := fun _ => 12 + sz
    decode := fun o rsp => some (f o (payload rsp)) }

/-- A request payload of `sz` bytes, no response payload. -/
def instruct (set cmd : Byte) (sz : ℕ) (pl : ByteOrder → Bytes) (h : ∀ o, (pl o).length = sz) :
    CciCommand Unit :=
  { order set cmd with
    reqHeap := true
    plSz := sz
    payload := fun o => some (pl o)
    framed := fun o _ hpl => by rw [← Option.some.inj hpl, h o] }

/-- Payloads both ways, the response one of between `min` and `sz` bytes. -/
def request (set cmd : Byte) (reqSz : ℕ) (pl : ByteOrder → Bytes) (h : ∀ o, (pl o).length = reqSz)
    (min sz : ℕ) (f : ByteOrder → Bytes → Option α) : CciCommand α :=
  { query set cmd sz f with
    reqHeap := true
    plSz := reqSz
    payload := fun o => some (pl o)
    rspMin := fun _ => 12 + min
    decode := fun o rsp => f o (payload rsp)
    framed := fun o _ hpl => by rw [← Option.some.inj hpl, h o] }

end LibCxlmi.Commands
