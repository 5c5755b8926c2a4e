import LibCxlmi.Tools.FeatureDevice

/-!
# The Set Feature requests of both paths

What the direct command and the tunnel's subcommand may send to a device is one
payload at most. It is worked out here from the parsed arguments, the payload file
and the device's table.
-/

namespace LibCxlmi.Tools
open LibCxlmi.Word LibCxlmi.Commands LibCxlmi.Dialogue

/-! ### The direct command -/

section Direct
variable (o : ByteOrder) (dev : Option FeatureTable)

theorem ends_fetch (r : End ⊕ Option GetSupportedFeaturesRsp) :
    (fetchSupportedFeatures o).Ends (DirectAnswer dev) r ↔
      r = .inr none ∨ ∃ t, dev = some t ∧ r = .inr (some (t.library o)) := by
  unfold fetchSupportedFeatures
  constructor
  · intro h
    obtain ⟨ok, -, h⟩ := (ends_bind _ _ _ _).mp h
    cases ok with
    | false => exact Or.inl h
    | true =>
      obtain ⟨x, hx, h⟩ := (ends_bind _ _ _ _).mp h
      cases dev with
      | none =>
        have hrc : x.rc ≠ 0 := (ends_ask _ _ _).mp hx
        rw [if_pos hrc] at h
        exact Or.inl h
      | some t =>
        obtain rfl : x = ⟨0, t.reply⟩ := (ends_ask _ _ _).mp hx
        dsimp only at h
        rw [t.library_decoded] at h
        exact Or.inr ⟨t, rfl, h⟩
  · rintro (rfl | ⟨t, rfl, rfl⟩)
    · exact (ends_bind _ _ _ _).mpr ⟨false, (ends_ask _ _ _).mpr trivial, rfl⟩
    · refine (ends_bind _ _ _ _).mpr ⟨true, (ends_ask _ _ _).mpr trivial, ?_⟩
      refine (ends_bind _ _ _ _).mpr ⟨⟨0, t.reply⟩, (ends_ask _ _ _).mpr rfl, ?_⟩
      dsimp only
      rw [t.library_decoded]
      rfl

theorem fetch_silent (req : SetFeatureReq) :
    ¬(fetchSupportedFeatures o).Asks (DirectAnswer dev) (.setFeature req) := by
  unfold fetchSupportedFeatures
  intro h
  obtain h | ⟨ok, -, h⟩ := (asks_bind _ _ _ _).mp h
  · exact nomatch (asks_ask _ _ _).mp h
  · cases ok with
    | false => exact h
    | true =>
      obtain h | ⟨x, -, h⟩ := (asks_bind _ _ _ _).mp h
      · exact nomatch (asks_ask _ _ _).mp h
      · split_ifs at h
        · exact h
        · split at h
          · exact h
          · exact h

section Resolve
variable {α : Type} [DecidableEq α] (lookup : GetSupportedFeaturesRsp → Bytes → α) (absent : α) (featureId : Bytes)
  (doc : Bytes → α)

/-- The documented value, or the one the library finds in the device's table. -/
def directValue : α :=
  if doc featureId ≠ absent then doc featureId
  else
    match dev with
    | none => absent
    | some t => lookup (t.library o) featureId

theorem directValue_doc (h : doc featureId ≠ absent) :
    directValue o dev lookup absent featureId doc = doc featureId :=
  if_pos h

theorem directValue_table (t : FeatureTable) (h : doc featureId = absent) :
    directValue o (some t) lookup absent featureId doc = lookup (t.library o) featureId :=
  if_neg (not_not_intro h)

theorem directValue_none (h : doc featureId = absent) :
    directValue o none lookup absent featureId doc = absent :=
  if_neg (not_not_intro h)

theorem ends_resolve (v : α) (hv : v ≠ absent) :
    (resolveSetFeature o lookup absent featureId doc).Ends (DirectAnswer dev) (.inr v) ↔
      v = directValue o dev lookup absent featureId doc := by
  unfold resolveSetFeature directValue
  by_cases hdoc : doc featureId ≠ absent
  · rw [if_pos hdoc, if_pos hdoc]
    exact Sum.inr.injEq v _ ▸ Iff.rfl
  · rw [if_neg hdoc, if_neg hdoc, mailboxLookup, ends_bind]
    simp only [ends_fetch]
    constructor
    · rintro ⟨r, rfl | ⟨t, rfl, rfl⟩, h⟩
      · exact absurd (Sum.inr.inj h) hv
      · exact Sum.inr.inj h
    · intro h
      cases dev with
      | none => exact absurd h hv
      | some t => exact ⟨_, Or.inr ⟨t, rfl, rfl⟩, congrArg Sum.inr h⟩

theorem resolve_silent (req : SetFeatureReq) :
    ¬(resolveSetFeature o lookup absent featureId doc).Asks (DirectAnswer dev) (.setFeature req) := by
  unfold resolveSetFeature
  split
  · exact asks_ret _ _ _
  · intro h
    obtain h | ⟨r, -, h⟩ := (asks_bind _ _ _ _).mp h
    · exact fetch_silent o dev req h
    · split at h
      all_goals exact h

end Resolve

variable (disk : Disk) (p : SetFeatureParams) (data : Bytes) (req : SetFeatureReq)

def SetFeatureParams.sizeFrom : ℕ :=
  directValue o dev lookupSetFeatureSize 0 p.featureId.val lookupSetFeatureSizeDoc

def SetFeatureParams.versionFrom : Option Byte :=
  match p.version with
  | some v => some v
  | none =>
      let version := directValue o dev lookupSetFeatureVersion 0 p.featureId.val lookupSetFeatureVersionDoc
      if version = 0 then none else some version

theorem ends_directVersion (v : Byte) :
    (p.directVersion o).Ends (DirectAnswer dev) (.inr (some v)) ↔ p.versionFrom o dev = some v := by
  unfold SetFeatureParams.directVersion SetFeatureParams.versionFrom
  cases p.version with
  | some w => exact ⟨fun h => (Sum.inr.inj h).symm, fun h => congrArg Sum.inr h.symm⟩
  | none =>
    dsimp only
    rw [ends_bind]
    constructor
    · rintro ⟨r, hr, h⟩
      cases r with
      | inl e => cases h
      | inr w =>
        dsimp only at h
        by_cases hw : w = 0
        · rw [if_pos hw] at h
          cases h
        · rw [if_neg hw] at h
          cases h
          rw [← (ends_resolve o dev _ _ _ _ v hw).mp hr, if_neg hw]
    · intro h
      by_cases hw : directValue o dev lookupSetFeatureVersion 0 p.featureId.val lookupSetFeatureVersionDoc = 0
      · rw [if_pos hw] at h
        cases h
      · rw [if_neg hw] at h
        cases h
        refine ⟨_, (ends_resolve o dev _ _ _ _ _ hw).mpr rfl, ?_⟩
        dsimp only
        rw [if_neg hw]
        rfl

theorem directVersion_silent : ¬(p.directVersion o).Asks (DirectAnswer dev) (.setFeature req) := by
  unfold SetFeatureParams.directVersion
  split
  · exact asks_ret _ _ _
  · intro h
    obtain h | ⟨r, -, h⟩ := (asks_bind _ _ _ _).mp h
    · exact resolve_silent o dev _ _ _ _ req h
    · split at h
      all_goals exact h

theorem asks_directSend : (p.directSend o data).Asks (DirectAnswer dev) (.setFeature req) ↔
    ∃ v, p.versionFrom o dev = some v ∧ req = p.setReq v data := by
  unfold SetFeatureParams.directSend
  rw [asks_bind, or_iff_right (directVersion_silent o dev p req)]
  constructor
  · rintro ⟨r, hr, h⟩
    split at h
    · exact absurd h (asks_ret _ _ _)
    · exact absurd h (asks_ret _ _ _)
    · rename_i v
      refine ⟨v, (ends_directVersion o dev p v).mp hr, ?_⟩
      obtain h | ⟨ok, -, h⟩ := (asks_bind _ _ _ _).mp h
      · exact nomatch (asks_ask _ _ _).mp h
      · cases ok with
        | false => exact absurd h (asks_ret _ _ _)
        | true =>
          obtain h | ⟨rc, -, h⟩ := (asks_bind _ _ _ _).mp h
          · exact FeatureCall.setFeature.inj ((asks_ask _ _ _).mp h)
          · exact absurd h (asks_ret _ _ _)
  · rintro ⟨v, hv, rfl⟩
    refine ⟨_, (ends_directVersion o dev p v).mpr hv, ?_⟩
    refine (asks_bind _ _ _ _).mpr (Or.inr ⟨true, (ends_ask _ _ _).mpr trivial, ?_⟩)
    exact (asks_bind _ _ _ _).mpr (Or.inl ((asks_ask _ _ _).mpr rfl))

theorem payload_size (size : ℕ) (h : p.payload disk size = some data) : size ≠ 0 := by
  rintro rfl
  cases h

theorem asks_directWith (size : ℕ) : (p.directWith o disk size).Asks (DirectAnswer dev) (.setFeature req) ↔
    ∃ data v, p.payload disk size = some data ∧ p.versionFrom o dev = some v ∧ req = p.setReq v data := by
  unfold SetFeatureParams.directWith
  cases p.payload disk size with
  | none => exact iff_of_false (asks_ret _ _ _) fun ⟨data, v, hdata, _⟩ => nomatch hdata
  | some data =>
    rw [asks_directSend]
    constructor
    · rintro ⟨v, hv, hreq⟩
      exact ⟨data, v, rfl, hv, hreq⟩
    · rintro ⟨data', v, hdata, hv, hreq⟩
      exact ⟨v, hv, Option.some.inj hdata ▸ hreq⟩

theorem asks_cmdSetFeature (scan : List Char → Option Byte) (args : List String) :
    (cmdSetFeature o disk scan args).Asks (DirectAnswer dev) (.setFeature req) ↔
      ∃ p data v, parseSetFeatureReq scan args = some p ∧ p.payload disk (p.sizeFrom o dev) = some data ∧
        p.versionFrom o dev = some v ∧ req = p.setReq v data := by
  unfold cmdSetFeature
  cases parseSetFeatureReq scan args with
  | none => exact iff_of_false (asks_ret _ _ _) fun ⟨p, data, v, hp, _⟩ => nomatch hp
  | some p =>
    dsimp only
    rw [resolveSetFeatureCount, asks_bind, or_iff_right (resolve_silent o dev _ _ _ _ req)]
    constructor
    · rintro ⟨r, hr, h⟩
      cases r with
      | inl e => exact absurd h (asks_ret _ _ _)
      | inr size =>
        obtain ⟨data, v, hdata, hv, hreq⟩ := (asks_directWith o dev disk p req size).mp h
        rw [(ends_resolve o dev _ _ _ _ size (payload_size disk p data size hdata)).mp hr] at hdata
        exact ⟨p, data, v, rfl, hdata, hv, hreq⟩
    · rintro ⟨p', data, v, hp, hdata, hv, hreq⟩
      cases hp
      refine ⟨_, (ends_resolve o dev _ _ _ _ _ (payload_size disk p data _ hdata)).mpr rfl, ?_⟩
      exact (asks_directWith o dev disk p req _).mpr ⟨data, v, hdata, hv, hreq⟩

/-- The payload that is sent, if any. -/
def SetFeatureParams.directPayload : Option Bytes :=
  (p.payload disk (p.sizeFrom o dev)).bind fun data =>
    (p.versionFrom o dev).map fun version => setFeaturePayload o p version data

theorem direct_sends_iff (scan : List Char → Option Byte) (args : List String) (pl : Bytes) :
    DirectSends o dev disk scan args pl ↔
      ∃ p, parseSetFeatureReq scan args = some p ∧ p.directPayload o dev disk = some pl := by
  have hasks := fun req => asks_iff_runs (DirectAnswer dev) (directAnswer_exists dev) (cmdSetFeature o disk scan args)
    (.setFeature req)
  constructor
  · rintro ⟨t, r, hrun, ht, req, hmem, hpl⟩
    obtain ⟨p, data, v, hp, hdata, hv, rfl⟩ :=
      (asks_cmdSetFeature o dev disk req scan args).mp ((hasks req).mpr ⟨t, r, hrun, ht, hmem⟩)
    refine ⟨p, hp, ?_⟩
    rw [SetFeatureParams.directPayload, hdata, Option.bind_some, hv]
    exact hpl
  · rintro ⟨p, hp, hpl⟩
    obtain ⟨data, hdata, hpl⟩ := Option.bind_eq_some_iff.mp hpl
    obtain ⟨v, hv, rfl⟩ := Option.map_eq_some_iff.mp hpl
    obtain ⟨t, r, hrun, ht, hmem⟩ :=
      (hasks (p.setReq v data)).mp ((asks_cmdSetFeature o dev disk _ scan args).mpr ⟨p, data, v, hp, hdata, hv, rfl⟩)
    exact ⟨t, r, hrun, ht, _, hmem, rfl⟩

end Direct

/-! ### The tunnel's subcommand -/

section Tunnel
variable (o : ByteOrder) (dev : Option FeatureTable) (port : Byte) (disk : Disk) (p : SetFeatureParams)

theorem FeatureTable.returnCode (t : FeatureTable) : Cci.returnCode o t.reply = 0 := by
  rw [Cci.returnCode, t.success]
  cases o with
  | little => rfl
  | big => rfl

theorem featureRequest_not_set (pl : Bytes) : ¬SetFeaturePacket o pl (featureRequest o port) := by
  intro h
  have hcommand := h.command
  rw [featureRequest, Message.encode, sdbPacket_command] at hcommand
  exact absurd hcommand (by decide)

theorem inner_answered (t : FeatureTable) (x : VendorReply) (h : TableAnswer o (some t) x) :
    innerReturnCode o (x.buffer (16 + 8 + featureDefaultCount)) = 0 ∧
      sdbParseSupportedFeaturesRsp o ((x.buffer (16 + 8 + featureDefaultCount)).drop 16) = some (t.sdb o) := by
  have hpayload : (x.buffer (16 + 8 + featureDefaultCount)).drop 16 = Cci.payload t.reply := by
    rw [Cci.payload, ← h.2, List.drop_drop]
  rw [innerReturnCode, h.2, hpayload]
  exact ⟨t.returnCode o, t.sdb_parsed o⟩

theorem ends_sdbFetch (sfrsp : GetSupportedFeaturesRsp) :
    (sdbTunnelFetchSupportedFeatures o port).Ends (TunnelAnswer o dev) (.inr sfrsp) ↔
      ∃ t, dev = some t ∧ sfrsp = t.sdb o := by
  unfold sdbTunnelFetchSupportedFeatures
  rw [ends_calloc _ _ _ _ fun _ => trivial, or_iff_right (nomatch ·), ends_bind]
  constructor
  · rintro ⟨⟨rc, rsp⟩, hrsp, h⟩
    obtain ⟨x, hx, rfl, rfl⟩ := (ends_vendorSpecific _ _ _ _ _).mp hrsp
    have hx : TableAnswer o dev x := hx ⟨port, rfl⟩
    dsimp only at h
    cases dev with
    | none =>
      split_ifs at h with hrc hinner
      · cases h
      · cases h
      · exact absurd hx (not_or.mpr ⟨hrc, hinner⟩)
    | some t =>
      obtain ⟨hinner, hparsed⟩ := inner_answered o t x hx
      rw [if_neg (not_not_intro hx.1), if_neg (not_not_intro hinner), hparsed] at h
      exact ⟨t, rfl, Sum.inr.inj h⟩
  · rintro ⟨t, rfl, rfl⟩
    obtain ⟨x, hx⟩ := tunnelAnswer_exists o (some t) (.vendor (featureRequest o port) (16 + 8 + featureDefaultCount))
    obtain ⟨hinner, hparsed⟩ := inner_answered o t x (hx ⟨port, rfl⟩)
    refine ⟨(x.rc, x.buffer _), (ends_vendorSpecific _ _ _ _ _).mpr ⟨x, hx, rfl, rfl⟩, ?_⟩
    dsimp only
    rw [if_neg (not_not_intro (hx ⟨port, rfl⟩).1), if_neg (not_not_intro hinner), hparsed]
    rfl

theorem asks_sdbFetch (m : Message) (n : ℕ)
    (h : (sdbTunnelFetchSupportedFeatures o port).Asks (TunnelAnswer o dev) (.vendor m n)) :
    m = featureRequest o port := by
  unfold sdbTunnelFetchSupportedFeatures at h
  rw [asks_calloc _ _ _ _ fun _ => trivial, or_iff_right (asks_ret _ _ _), asks_bind] at h
  obtain h | ⟨⟨rc, rsp⟩, -, h⟩ := h
  · exact (SysCall.vendor.inj ((asks_vendorSpecific _ _ _ _).mp h)).1
  · dsimp only at h
    split_ifs at h
    · exact absurd h (asks_ret _ _ _)
    · exact absurd h (asks_ret _ _ _)
    · split at h
      · exact absurd h (asks_ret _ _ _)
      · exact absurd h (asks_ret _ _ _)

/-- The table that a request is made with: none where none is needed. -/
def SetFeatureParams.TableFrom (r : Option GetSupportedFeaturesRsp) : Prop :=
  if p.needSf = true then ∃ t, dev = some t ∧ r = some (t.sdb o) else r = none

theorem ends_table (r : Option GetSupportedFeaturesRsp) :
    (p.table o port).Ends (TunnelAnswer o dev) (.inr r) ↔ p.TableFrom o dev r := by
  unfold SetFeatureParams.table SetFeatureParams.TableFrom
  split_ifs with hneed
  · rw [ends_calloc _ _ _ _ fun _ => trivial, or_iff_right (nomatch ·), ends_bind]
    constructor
    · rintro ⟨e, he, h⟩
      cases e with
      | inl e => cases h
      | inr sfrsp =>
        obtain ⟨t, ht, rfl⟩ := (ends_sdbFetch o dev port sfrsp).mp he
        exact ⟨t, ht, Sum.inr.inj h⟩
    · rintro ⟨t, ht, rfl⟩
      exact ⟨_, (ends_sdbFetch o dev port _).mpr ⟨t, ht, rfl⟩, rfl⟩
  · exact ⟨fun h => Sum.inr.inj h, fun h => congrArg Sum.inr h⟩

theorem asks_table (m : Message) (n : ℕ) (h : (p.table o port).Asks (TunnelAnswer o dev) (.vendor m n)) :
    m = featureRequest o port := by
  unfold SetFeatureParams.table at h
  split_ifs at h with hneed
  · rw [asks_calloc _ _ _ _ fun _ => trivial, or_iff_right (asks_ret _ _ _), asks_bind] at h
    obtain h | ⟨e, -, h⟩ := h
    · exact asks_sdbFetch o dev port m n h
    · split at h
      · exact absurd h (asks_ret _ _ _)
      · exact absurd h (asks_ret _ _ _)
  · exact absurd h (asks_ret _ _ _)

/-- Of the vendor commands, the set-feature packet carries the request. -/
theorem asks_sdbSetFeature (m : Message) (n : ℕ) (hm : m ≠ featureRequest o port) :
    (sdbTunnelSetFeature o disk port p).Asks (TunnelAnswer o dev) (.vendor m n) ↔
      ∃ r pl, p.TableFrom o dev r ∧ p.request o disk r = some pl ∧ m = .sdb port 0x02 0x05 3 pl ∧ n = 16 := by
  have hsend : ∀ pl, (checked (calloc (16 + pl.length)) (return .returned (-1)) do
      let rc ← sdbTunnelSend o (.sdb port 0x02 0x05 3 pl)
      return .returned rc : Tool End).Asks (TunnelAnswer o dev) (.vendor m n) ↔
        m = .sdb port 0x02 0x05 3 pl ∧ n = 16 := by
    intro pl
    rw [asks_calloc _ _ _ _ fun _ => trivial, or_iff_right (asks_ret _ _ _), asks_bind,
      or_iff_left fun ⟨rc, _, h⟩ => asks_ret _ _ _ h, sdbTunnelSend, asks_bind,
      or_iff_left fun ⟨x, _, h⟩ => asks_ret _ _ _ h, asks_vendorSpecific, SysCall.vendor.injEq]
  unfold sdbTunnelSetFeature
  rw [asks_bind, or_iff_right fun h => hm (asks_table o dev port p m n h)]
  constructor
  · rintro ⟨e, he, h⟩
    cases e with
    | inl e => exact absurd h (asks_ret _ _ _)
    | inr r =>
      dsimp only at h
      cases hreq : p.request o disk r with
      | none =>
        rw [hreq] at h
        exact absurd h (asks_ret _ _ _)
      | some pl =>
        rw [hreq] at h
        exact ⟨r, pl, (ends_table o dev port p r).mp he, hreq, (hsend pl).mp h⟩
  · rintro ⟨r, pl, hr, hreq, hmn⟩
    refine ⟨_, (ends_table o dev port p r).mpr hr, ?_⟩
    dsimp only
    rw [hreq]
    exact (hsend pl).mpr hmn

/-- The payload that is sent, if any. -/
def SetFeatureParams.tunnelPayload : Option Bytes :=
  if p.needSf = true then dev.bind fun t => p.request o disk (some (t.sdb o)) else p.request o disk none

theorem tunnelPayload_iff (pl : Bytes) :
    (∃ r, p.TableFrom o dev r ∧ p.request o disk r = some pl) ↔ p.tunnelPayload o dev disk = some pl := by
  unfold SetFeatureParams.TableFrom SetFeatureParams.tunnelPayload
  split_ifs with hneed
  · rw [Option.bind_eq_some_iff]
    constructor
    · rintro ⟨r, ⟨t, ht, rfl⟩, hreq⟩
      exact ⟨t, ht, hreq⟩
    · rintro ⟨t, ht, hreq⟩
      exact ⟨_, ⟨t, ht, rfl⟩, hreq⟩
  · exact ⟨fun ⟨r, hr, hreq⟩ => hr ▸ hreq, fun hreq => ⟨none, rfl, hreq⟩⟩

theorem setFeaturePacket_sdb (pl pl' : Bytes) : SetFeaturePacket o pl' (.sdb port 0x02 0x05 3 pl) ↔ pl' = pl := by
  have hpl : Cci.payload (((Message.sdb port 0x02 0x05 3 pl).encode o).drop 4) = pl :=
    sdbPacket_payload o port 0x02 0x05 3 pl (by decide)
  constructor
  · exact fun h => h.payload.symm.trans hpl
  · rintro rfl
    exact ⟨rfl, sdbPacket_command o port 0x02 0x05 3 pl', sdbPacket_commandSet o port 0x02 0x05 3 pl', hpl⟩

theorem tunnel_sends_iff (scan : List Char → Option Byte) (args : List String) (pl : Bytes) :
    TunnelSends o dev disk scan args pl ↔ ∃ a p, sdbArgs args = some a ∧ parseSetFeatureReq scan a.2 = some p ∧
      p.tunnelPayload o dev disk = some pl := by
  have hasks := fun m n => asks_iff_runs (TunnelAnswer o dev) (tunnelAnswer_exists o dev)
    (sdbTunnelSetFeatureArgs o disk scan args) (.vendor m n)
  have hsends : TunnelSends o dev disk scan args pl ↔
      ∃ m n, (sdbTunnelSetFeatureArgs o disk scan args).Asks (TunnelAnswer o dev) (.vendor m n) ∧
        SetFeaturePacket o pl m := by
    simp only [hasks]
    constructor
    · rintro ⟨t, r, hrun, ht, m, n, hmem, hpacket⟩
      exact ⟨m, n, ⟨t, r, hrun, ht, hmem⟩, hpacket⟩
    · rintro ⟨m, n, ⟨t, r, hrun, ht, hmem⟩, hpacket⟩
      exact ⟨t, r, hrun, ht, m, n, hmem, hpacket⟩
  rw [hsends]
  unfold sdbTunnelSetFeatureArgs
  cases hargs : sdbArgs args with
  | none => exact iff_of_false (fun ⟨m, n, h, _⟩ => asks_ret _ _ _ h) fun ⟨a, p, ha, _⟩ => nomatch ha
  | some a =>
    rw [Option.bind_some]
    cases hparse : parseSetFeatureReq scan a.2 with
    | none =>
      refine iff_of_false (fun ⟨m, n, h, _⟩ => asks_ret _ _ _ h) ?_
      rintro ⟨a', p, ha, hp, -⟩
      rw [← Option.some.inj ha, hparse] at hp
      cases hp
    | some p =>
      rw [Option.map_some]
      dsimp only
      constructor
      · rintro ⟨m, n, h, hpacket⟩
        have hm : m ≠ featureRequest o a.1 := by
          rintro rfl
          exact featureRequest_not_set o a.1 pl hpacket
        obtain ⟨r, pl', hr, hreq, rfl, -⟩ := (asks_sdbSetFeature o dev a.1 disk p m n hm).mp h
        rw [(setFeaturePacket_sdb o a.1 pl' pl).mp hpacket]
        exact ⟨a, p, rfl, hparse, (tunnelPayload_iff o dev disk p pl').mp ⟨r, hr, hreq⟩⟩
      · rintro ⟨a', p', ha, hp, hpl⟩
        cases ha
        cases hparse.symm.trans hp
        obtain ⟨r, hr, hreq⟩ := (tunnelPayload_iff o dev disk p pl).mpr hpl
        have hpacket := (setFeaturePacket_sdb o a.1 pl pl).mpr rfl
        have hm : Message.sdb a.1 0x02 0x05 3 pl ≠ featureRequest o a.1 := by
          intro heq
          exact featureRequest_not_set o a.1 pl (heq ▸ hpacket)
        exact ⟨_, 16, (asks_sdbSetFeature o dev a.1 disk p _ 16 hm).mpr ⟨r, pl, hr, hreq, rfl, rfl⟩, hpacket⟩

end Tunnel

end LibCxlmi.Tools
