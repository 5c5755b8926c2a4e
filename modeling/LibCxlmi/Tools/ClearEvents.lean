import LibCxlmi.Tools.Events
import LibCxlmi.Tools.SdbTunnel
import LibCxlmi.Tools.Sent

/-!
# Clear Event Records on both paths (cmd_events.c:160-230, cmd_sdb_tunnel.c:1985-2113)

clear-event-records has a builder for the mailbox, which leaves the encoding to
the library, and one for the sideband tunnel, which writes the request itself.
They read the same options, but for `--port`, and differ where `--all` meets
`--handle`, and in the byte order of the handles.
-/

namespace LibCxlmi.Tools
open LibCxlmi.Word LibCxlmi.Text LibCxlmi.Commands LibCxlmi.Dialogue

/-! ### The direct command -/

/- `MAX_EVENT_RECORDS` handles have room here. -/
structure ClearRecordsArgs where
  log : Option String
  all : Bool
  handles : List (U 16)
  room : handles.length ≤ 64

theorem room_snoc (hs : List (U 16)) (h : U 16) (hlt : ¬64 ≤ hs.length) : (hs ++ [h]).length ≤ 64 := by
  rw [List.length_append, List.length_singleton]
  omega

theorem room_nil : ([] : List (U 16)).length ≤ 64 := Nat.zero_le 64

def clearRecordsOptions : List String → ClearRecordsArgs → Option ClearRecordsArgs
  | [], a => some a
  | [x], a => if x = "--all" then some { a with all := true } else none
  | x :: v :: rest, a =>
      if x = "--log" then clearRecordsOptions rest { a with log := some v }
      else if x = "--all" then clearRecordsOptions (v :: rest) { a with all := true }
      else if x = "--handle" then
        if h : 64 ≤ a.handles.length then none
        else clearRecordsOptions rest
          ⟨a.log, a.all, a.handles ++ [Fin.ofNat (2 ^ 16) (strtoul v)], room_snoc a.handles _ h⟩
      else none

def noRecords : ClearRecordsArgs := ⟨none, false, [], room_nil⟩

theorem nrRecs_of_room (hs : List (U 16)) (h : hs.length ≤ 64) : hs.length < 256 := Nat.lt_of_le_of_lt h (by decide)

theorem nrRecs_nil : ([] : List (U 16)).length < 256 := by decide

def clearRecordsReq (log : Byte) (a : ClearRecordsArgs) : ClearEventRecordsReq :=
  if a.all = true then ⟨log, 0x1, [], nrRecs_nil⟩
  else ⟨log, 0, a.handles, nrRecs_of_room a.handles a.room⟩

/-- What `cmd_clear_event_records` hands to the library, if it can allocate it. -/
def cmdClearEventRecords (args : List String) : Option ClearEventRecordsReq :=
  (clearRecordsOptions args noRecords).bind fun a => (a.log.bind parseEventLog).map fun log => clearRecordsReq log a

/-! ### The same options without a port -/

/-- The values of the `--port` options, and the other arguments. -/
def portOptions : List String → List String × List String
  | [] => ([], [])
  | [x] => ([], [x])
  | x :: v :: rest =>
      if x = "--port" then (v :: (portOptions rest).1, (portOptions rest).2)
      else if x = "--all" then ((portOptions (v :: rest)).1, x :: (portOptions (v :: rest)).2)
      else ((portOptions rest).1, x :: v :: (portOptions rest).2)

/-- What the tunnel's options come to, apart from the port. -/
structure ClearRecordsArgs.Of (r : ClearRecordsArgs) (a : ClearEventArgs) : Prop where
  log : r.log = a.log
  all : r.all = a.all
  handles : r.handles = a.handles

theorem clearRecordsOptions_all (l : List String) (r : ClearRecordsArgs) :
    clearRecordsOptions ("--all" :: l) r = clearRecordsOptions l { r with all := true } := by
  cases l with
  | nil => rfl
  | cons v rest => rfl

theorem clearRecordsOptions_handle (v : String) (rest : List String) (r : ClearRecordsArgs)
    (h : ¬64 ≤ r.handles.length) : clearRecordsOptions ("--handle" :: v :: rest) r =
      clearRecordsOptions rest
        ⟨r.log, r.all, r.handles ++ [Fin.ofNat (2 ^ 16) (strtoul v)], room_snoc r.handles _ h⟩ :=
  dif_neg h

theorem clearRecordsOptions_grows (l : List String) (r r' : ClearRecordsArgs) (h : clearRecordsOptions l r = some r') :
    r.handles.length ≤ r'.handles.length := by
  fun_induction clearRecordsOptions l r with
  | case1 r => exact Option.some.inj h ▸ Nat.le_refl _
  | case2 r => exact Option.some.inj h ▸ Nat.le_refl _
  | case3 x r hx => cases h
  | case4 v rest r ih => exact ih h
  | case5 v rest r hlog ih => exact ih h
  | case6 v rest r hlog hall hroom => cases h
  | case7 v rest r hlog hall hroom ih =>
    have hle := ih h
    rw [List.length_append] at hle
    omega
  | case8 x v rest r hlog hall hhandle => cases h

/-- What the tunnel accepts, the direct command accepts without the ports. -/
theorem clearRecordsOptions_of_tunnel (args : List String) (a b : ClearEventArgs) (r : ClearRecordsArgs)
    (hr : r.Of a) (h : clearEventOptions args a = some b) :
    ∃ r', clearRecordsOptions (portOptions args).2 r = some r' ∧ r'.Of b := by
  fun_induction clearEventOptions args a generalizing r with
  | case1 a => exact ⟨r, rfl, Option.some.inj h ▸ hr⟩
  | case2 a =>
    cases h
    exact ⟨{ r with all := true }, rfl, hr.log, rfl, hr.handles⟩
  | case3 x a hx => cases h
  | case4 v rest a ih =>
    obtain ⟨port, -, hrest⟩ := Option.bind_eq_some_iff.mp h
    exact ih port r ⟨hr.log, hr.all, hr.handles⟩ hrest
  | case5 v rest a hport ih => exact ih { r with log := some v } ⟨rfl, hr.all, hr.handles⟩ h
  | case6 v rest a hport hlog ih =>
    obtain ⟨r', hr', hof⟩ := ih { r with all := true } ⟨hr.log, rfl, hr.handles⟩ h
    exact ⟨r', (clearRecordsOptions_all _ r).trans hr', hof⟩
  | case7 v rest a hport hlog hall hfull => cases h
  | case8 v rest a hport hlog hall hroom ih =>
    have hlt : ¬64 ≤ r.handles.length := by
      rw [hr.handles]
      omega
    obtain ⟨r', hr', hof⟩ := ih ⟨r.log, r.all, r.handles ++ [Fin.ofNat (2 ^ 16) (strtoul v)], room_snoc r.handles _ hlt⟩
      ⟨hr.log, hr.all, congrArg (· ++ _) hr.handles⟩ h
    exact ⟨r', (clearRecordsOptions_handle v _ r hlt).trans hr', hof⟩
  | case9 x v rest a hport hlog hall hhandle => cases h

/-- The other way round the ports have to be known, and there are at most 20 handles. -/
theorem clearEventOptions_of_direct (args : List String) (a : ClearEventArgs) (r r' : ClearRecordsArgs) (hr : r.Of a)
    (hports : ∀ v ∈ (portOptions args).1, parsePortId v ≠ none)
    (h : clearRecordsOptions (portOptions args).2 r = some r') (hcount : r'.handles.length ≤ 20) :
    ∃ b, clearEventOptions args a = some b ∧ r'.Of b := by
  fun_induction clearEventOptions args a generalizing r with
  | case1 a =>
    cases h
    exact ⟨a, rfl, hr⟩
  | case2 a =>
    cases h
    exact ⟨_, rfl, hr.log, rfl, hr.handles⟩
  | case3 x a hx =>
    rw [portOptions, clearRecordsOptions, if_neg hx] at h
    cases h
  | case4 v rest a ih =>
    obtain ⟨hport, hrest⟩ := List.forall_mem_cons.mp hports
    obtain ⟨port, hport⟩ := Option.ne_none_iff_exists'.mp hport
    obtain ⟨b, hb, hof⟩ := ih port r ⟨hr.log, hr.all, hr.handles⟩ hrest h
    exact ⟨b, Option.bind_eq_some_iff.mpr ⟨port, hport, hb⟩, hof⟩
  | case5 v rest a hport ih => exact ih { r with log := some v } ⟨rfl, hr.all, hr.handles⟩ hports h
  | case6 v rest a hport hlog ih =>
    exact ih { r with all := true } ⟨hr.log, rfl, hr.handles⟩ hports ((clearRecordsOptions_all _ r).symm.trans h)
  | case7 v rest a hport hlog hall hfull =>
    by_cases hroom : 64 ≤ r.handles.length
    · exact absurd ((dif_pos hroom).symm.trans h) (nomatch ·)
    · have hgrows := clearRecordsOptions_grows _ _ r' ((clearRecordsOptions_handle v _ r hroom).symm.trans h)
      rw [List.length_append, hr.handles, List.length_singleton] at hgrows
      omega
  | case8 v rest a hport hlog hall hroom ih =>
    have hlt : ¬64 ≤ r.handles.length := by
      rw [hr.handles]
      omega
    exact ih ⟨r.log, r.all, r.handles ++ [Fin.ofNat (2 ^ 16) (strtoul v)], room_snoc r.handles _ hlt⟩
      ⟨hr.log, hr.all, congrArg (· ++ _) hr.handles⟩ hports ((clearRecordsOptions_handle v _ r hlt).symm.trans h)
  | case9 x v rest a hport hlog hall hhandle =>
    rw [portOptions, if_neg hport, if_neg hall, clearRecordsOptions, if_neg hlog, if_neg hall, if_neg hhandle] at h
    cases h

/-! ### What the two send -/

/-- The inner request of the tunnel's packet is the request that the library sends,
with room for the records it counts and no more. -/
structure SameInner (o : ByteOrder) (m : Message) (c : CciCommand Unit) : Prop where
  tunnel : m.opcode = sdbTunnelOpcode
  command : Cci.command ((m.encode o).drop 4) = c.cmd
  commandSet : Cci.commandSet ((m.encode o).drop 4) = c.set
  payload : c.payload o = some (Cci.payload ((m.encode o).drop 4))
  length : (Cci.payload ((m.encode o).drop 4)).length = 6 + 2 * (byteAt (Cci.payload ((m.encode o).drop 4)) 2).val

/-- The tunnel sends if the direct command does, and sends the same. -/
def ClearsAlike (o : ByteOrder) (args : List String) : Prop :=
  match cmdClearEventRecords (portOptions args).2 with
  | none => ∀ m, ¬Sent (sdbTunnelClearEventRecords o args) m
  | some req => (∃ m, Sent (sdbTunnelClearEventRecords o args) m) ∧
      ∀ m, Sent (sdbTunnelClearEventRecords o args) m → SameInner o m (clearEventRecords req)

theorem sent_clearEventRecords (o : ByteOrder) (args : List String) (m : Message) :
    Sent (sdbTunnelClearEventRecords o args) m ↔ ∃ a log, clearEventOptions args ⟨0, none, false, []⟩ = some a ∧
      a.log.bind parseEventLogLocal = some log ∧ m = .sdb a.port 0x01 0x01 2 (clearEventPayload o log a) := by
  have hnone : ∀ r : End, ¬Sent (return r : Tool End) m := fun r => sent_ret r m
  unfold sdbTunnelClearEventRecords
  cases ha : clearEventOptions args ⟨0, none, false, []⟩ with
  | none => exact iff_of_false (hnone _) fun ⟨a, log, h, _⟩ => nomatch h
  | some a =>
    rw [Option.bind_some]
    cases hlog : a.log.bind parseEventLogLocal with
    | none =>
      refine iff_of_false (hnone _) ?_
      rintro ⟨b, log, hb, h, -⟩
      rw [← Option.some.inj hb, hlog] at h
      cases h
    | some log =>
      rw [Option.map_some]
      dsimp only
      rw [sent_calloc, or_iff_right (hnone _), sent_bind_silent _ _ fun a => sent_ret _,
        sdbTunnelSend, sent_bind_silent _ _ fun a => sent_ret _, sent_vendorSpecific]
      constructor
      · rintro rfl
        exact ⟨a, log, rfl, hlog, rfl⟩
      · rintro ⟨b, log', hb, h, rfl⟩
        obtain rfl := Option.some.inj hb
        rw [hlog] at h
        rw [Option.some.inj h]

/-- A handle as it lies in memory is the wire's on a little-endian host, and where
its two bytes are the same. -/
theorem storeWord_eq_putLe_iff (o : ByteOrder) (h : U 16) :
    storeWord o 2 h.val = putLe o 2 h ↔ o = .little ∨ h.val / 256 = h.val % 256 := by
  rw [putLe_eq]
  cases o with
  | little => exact iff_of_true rfl (Or.inl rfl)
  | big =>
    have hbytes : (leBytes 2 h.val).reverse = leBytes 2 h.val ↔ h.val / 256 % 256 = h.val % 256 := by
      constructor
      · intro heq
        exact congrArg Fin.val (List.cons.inj heq).1
      · intro heq
        exact congrArg₂ (fun a b : Byte => [a, b]) (Fin.ext heq) (Fin.ext heq.symm)
    have hhigh : h.val / 256 % 256 = h.val / 256 := Nat.mod_eq_of_lt (by omega)
    rw [storeWord, hbytes, hhigh]
    have hbig : ByteOrder.big ≠ .little := by decide
    exact (or_iff_right hbig).symm

/-- `--all` comes without handles, or the handles are the same bytes on the host and
on the wire. -/
def ClearRecordsArgs.Portable (o : ByteOrder) (r : ClearRecordsArgs) : Prop :=
  if r.all = true then r.handles = [] else o = .little ∨ ∀ h ∈ r.handles, h.val / 256 = h.val % 256

theorem sameInner_iff (o : ByteOrder) (port : Byte) (pl : Bytes) (req : ClearEventRecordsReq) :
    SameInner o (.sdb port 0x01 0x01 2 pl) (clearEventRecords req) ↔
      (clearEventRecords req).payload o = some pl ∧ pl.length = 6 + 2 * (byteAt pl 2).val := by
  have hpl : Cci.payload (((Message.sdb port 0x01 0x01 2 pl).encode o).drop 4) = pl :=
    sdbPacket_payload o port 0x01 0x01 2 pl (by decide)
  constructor
  · intro h
    exact ⟨hpl ▸ h.payload, hpl ▸ h.length⟩
  · rintro ⟨hpayload, hlength⟩
    exact {
      tunnel := rfl
      command := sdbPacket_command o port 0x01 0x01 2 pl
      commandSet := sdbPacket_commandSet o port 0x01 0x01 2 pl
      payload := by rw [hpl, hpayload]
      length := by rw [hpl, hlength] }

theorem clearPayload_all_iff (o : ByteOrder) (log : Byte) (a : ClearEventArgs) (hall : a.all = true) :
    ((clearEventRecords ⟨log, 0x1, [], nrRecs_nil⟩).payload o = some (clearEventPayload o log a) ∧
      (clearEventPayload o log a).length = 6 + 2 * (byteAt (clearEventPayload o log a) 2).val) ↔ a.handles = [] := by
  have hpl : clearEventPayload o log a = [log, 0x1, 0] ++ zeros 3 ++ zeros (2 * a.handles.length) := if_pos hall
  rw [hpl]
  constructor
  · rintro ⟨-, hlen⟩
    rw [List.length_append, zeros_length] at hlen
    change 6 + 2 * a.handles.length = 6 + 2 * 0 at hlen
    exact List.length_eq_zero_iff.mp (by omega)
  · intro h
    rw [h]
    exact ⟨rfl, rfl⟩

theorem clearPayload_handles_iff (o : ByteOrder) (log : Byte) (a : ClearEventArgs) (hall : a.all = false)
    (hlt : a.handles.length < 256) :
    ((clearEventRecords ⟨log, 0, a.handles, hlt⟩).payload o = some (clearEventPayload o log a) ∧
      (clearEventPayload o log a).length = 6 + 2 * (byteAt (clearEventPayload o log a) 2).val) ↔
      o = .little ∨ ∀ h ∈ a.handles, h.val / 256 = h.val % 256 := by
  have hcount : Fin.ofNat 256 a.handles.length = ⟨a.handles.length, hlt⟩ := Fin.ext (Nat.mod_eq_of_lt hlt)
  have hpl : clearEventPayload o log a = [log, 0, ⟨a.handles.length, hlt⟩] ++ zeros 3 ++
      a.handles.flatMap fun h : U 16 => storeWord o 2 h.val := by
    rw [clearEventPayload, hall, if_neg Bool.false_ne_true, hcount]
  have hlen : (clearEventPayload o log a).length = 6 + 2 * (byteAt (clearEventPayload o log a) 2).val := by
    rw [hpl, List.length_append, flatMap_length _ _ 2 fun h : U 16 => storeWord_length o 2 h.val, Nat.mul_comm]
    rfl
  have hsame : (clearEventRecords ⟨log, 0, a.handles, hlt⟩).payload o = some (clearEventPayload o log a) ↔
      (a.handles.flatMap fun h : U 16 => storeWord o 2 h.val) = a.handles.flatMap fun h : U 16 => putLe o 2 h := by
    rw [hpl]
    exact ⟨fun h => (List.append_cancel_left (Option.some.inj h)).symm, fun h => by rw [h]; rfl⟩
  rw [and_iff_left hlen, hsame, flatMap_eq_iff _ _ _ fun h : U 16 =>
    (storeWord_length o 2 h.val).trans (putLe_length o 2 h).symm]
  simp only [storeWord_eq_putLe_iff]
  constructor
  · intro h
    cases o with
    | little => exact Or.inl rfl
    | big => exact Or.inr fun x hx => (h x hx).resolve_left (nomatch ·)
  · rintro (rfl | h)
    · exact fun _ _ => Or.inl rfl
    · exact fun x hx => Or.inr (h x hx)

theorem sameInner_clear_iff (o : ByteOrder) (log port : Byte) (a : ClearEventArgs) (r : ClearRecordsArgs)
    (hr : r.Of a) : SameInner o (.sdb port 0x01 0x01 2 (clearEventPayload o log a))
      (clearEventRecords (clearRecordsReq log r)) ↔ r.Portable o := by
  rw [sameInner_iff, ClearRecordsArgs.Portable, clearRecordsReq]
  obtain ⟨rlog, all, handles, room⟩ := r
  obtain ⟨port', alog, all', handles'⟩ := a
  obtain ⟨rfl, rfl, rfl⟩ := hr
  cases all with
  | true =>
    rw [if_pos rfl, if_pos rfl]
    exact clearPayload_all_iff o log ⟨port', rlog, true, handles⟩ rfl
  | false =>
    rw [if_neg Bool.false_ne_true, if_neg Bool.false_ne_true]
    exact clearPayload_handles_iff o log ⟨port', rlog, false, handles⟩ rfl (nrRecs_of_room handles room)

/-- With known ports and at most 20 handles the two commands send the same if the
arguments are portable. -/
theorem clear_event_records_iff (o : ByteOrder) (args : List String)
    (hports : ∀ v ∈ (portOptions args).1, parsePortId v ≠ none)
    (hcount : ∀ r, clearRecordsOptions (portOptions args).2 noRecords = some r → r.handles.length ≤ 20) :
    ClearsAlike o args ↔ ∀ r, clearRecordsOptions (portOptions args).2 noRecords = some r →
      r.log.bind parseEventLog ≠ none → r.Portable o := by
  have hstart : noRecords.Of ⟨0, none, false, []⟩ := ⟨rfl, rfl, rfl⟩
  unfold ClearsAlike cmdClearEventRecords
  cases hr : clearRecordsOptions (portOptions args).2 noRecords with
  | none =>
    refine iff_of_true ?_ fun r h => nomatch h
    intro m hm
    obtain ⟨a, log, ha, -, -⟩ := (sent_clearEventRecords o args m).mp hm
    obtain ⟨r', hr', -⟩ := clearRecordsOptions_of_tunnel args _ a noRecords hstart ha
    rw [hr] at hr'
    cases hr'
  | some r =>
    obtain ⟨a, ha, hof⟩ := clearEventOptions_of_direct args _ noRecords r hstart hports hr (hcount r hr)
    have hlogs : r.log.bind parseEventLog = a.log.bind parseEventLogLocal := by rw [hof.log]; rfl
    have hcond : (∀ r', some r = some r' → r'.log.bind parseEventLog ≠ none → r'.Portable o) ↔
        (r.log.bind parseEventLog ≠ none → r.Portable o) :=
      ⟨fun h => h r rfl, fun h r' hr' => Option.some.inj hr' ▸ h⟩
    rw [hcond, Option.bind_some]
    cases hlog : r.log.bind parseEventLog with
    | none =>
      refine iff_of_true ?_ fun h => absurd rfl h
      intro m hm
      obtain ⟨b, log, hb, hlog', -⟩ := (sent_clearEventRecords o args m).mp hm
      rw [← Option.some.inj (ha.symm.trans hb), ← hlogs, hlog] at hlog'
      cases hlog'
    | some log =>
      have hsent : ∀ m, Sent (sdbTunnelClearEventRecords o args) m ↔
          m = .sdb a.port 0x01 0x01 2 (clearEventPayload o log a) := by
        intro m
        rw [sent_clearEventRecords]
        constructor
        · rintro ⟨b, log', hb, hlog', rfl⟩
          obtain rfl := Option.some.inj (ha.symm.trans hb)
          rw [← hlogs, hlog] at hlog'
          rw [Option.some.inj hlog']
        · rintro rfl
          exact ⟨a, log, ha, hlogs.symm.trans hlog, rfl⟩
      rw [← sameInner_clear_iff o log a.port a r hof, Option.map_some]
      constructor
      · exact fun h _ => h.2 _ ((hsent _).mpr rfl)
      · intro h
        refine ⟨⟨_, (hsent _).mpr rfl⟩, fun m hm => ?_⟩
        rw [(hsent m).mp hm]
        exact h (nomatch ·)

/-- Two handles through a port. -/
theorem twoHandles_alike : ClearsAlike .little
    ["--handle", "0x10", "--port", "i3c", "--log", "fatal", "--handle", "17"] := by
  refine (clear_event_records_iff .little _ (by decide) ?_).mpr ?_
  · intro r hr
    cases hr
    decide
  · intro r hr _
    cases hr
    exact Or.inl rfl

/-- With `--all` the place of a handle stays in the tunnel's request. -/
theorem allWithHandle_differs : ¬ClearsAlike .little ["--log", "info", "--all", "--handle", "1"] := by
  intro h
  have hsent : Sent (sdbTunnelClearEventRecords .little ["--log", "info", "--all", "--handle", "1"])
      (.sdb 0 0x01 0x01 2 [0, 1, 0, 0, 0, 0, 0, 0]) :=
    (sent_clearEventRecords .little _ _).mpr ⟨⟨0, some "info", true, [1]⟩, 0, by decide, by decide, by decide⟩
  have hlength := (h.2 _ hsent).length
  exact absurd hlength (by decide)

end LibCxlmi.Tools
