import LibCxlmi.Tools.FeatureRequests

/-!
# Size and version of a Set Feature request

The direct command takes the documented version before the device's, the tunnel
the device's before the documented one once it has asked for the table. The
library finds no table on a big-endian host.
-/

namespace LibCxlmi.Tools
open LibCxlmi.Word LibCxlmi.Text LibCxlmi.Commands

section Compare
variable (o : ByteOrder) (dev : Option FeatureTable) (disk : Disk) (p : SetFeatureParams)

theorem request_eq (r : Option GetSupportedFeaturesRsp) :
    p.request o disk r = (p.payload disk (p.expectedSize r)).bind fun data =>
      (p.versionToSet r).map fun version => setFeaturePayload o p version data := by
  unfold SetFeatureParams.request SetFeatureParams.payload
  by_cases hsize : p.expectedSize r = 0
  · rw [if_pos hsize, if_pos hsize, Option.bind_none]
  · rw [if_neg hsize, if_neg hsize]
    cases readHexPayloadFile disk p.inputFile mailboxMaxPayloadSize with
    | none => rfl
    | some data =>
      rw [Option.bind_some, Option.filter_some]
      by_cases hlen : data.length = p.expectedSize r
      · rw [if_neg (not_not_intro hlen), if_pos (decide_eq_true hlen), Option.bind_some]
      · rw [if_pos hlen, if_neg fun h => hlen (of_decide_eq_true h), Option.bind_none]

theorem setFeaturePayload_inj (data : Bytes) (v w : Byte)
    (h : setFeaturePayload o p v data = setFeaturePayload o p w data) : v = w := by
  simp only [setFeaturePayload, List.append_assoc] at h
  have htail := List.append_cancel_left (List.append_cancel_left (List.append_cancel_left h))
  exact (List.cons.inj htail).1

/-- With the same file, what is sent depends on the version and on nothing else. -/
theorem sent_eq_iff (x : Option Bytes) (a b : Option Byte) :
    (x.bind fun data => a.map fun version => setFeaturePayload o p version data) =
      (x.bind fun data => b.map fun version => setFeaturePayload o p version data) ↔ x = none ∨ a = b := by
  cases x with
  | none => exact iff_of_true rfl (Or.inl rfl)
  | some data =>
    rw [Option.bind_some, Option.bind_some, or_iff_right (nomatch ·)]
    exact ⟨fun h => Option.map_injective (setFeaturePayload_inj o p data) h, fun h => h ▸ rfl⟩

theorem sent_none_iff (x : Option Bytes) (a : Option Byte) :
    (x.bind fun data => a.map fun version => setFeaturePayload o p version data) = none ↔ x = none ∨ a = none := by
  cases x with
  | none => exact iff_of_true rfl (Or.inl rfl)
  | some data => rw [Option.bind_some, Option.map_eq_none_iff, or_iff_right (nomatch ·)]

theorem needSf_iff : p.needSf = true ↔ lookupSetFeatureSizeDoc p.featureId.val = 0 ∨
    p.version = none ∧ lookupSetFeatureVersionDoc p.featureId.val = 0 := by
  rw [SetFeatureParams.needSf, Bool.or_eq_true, Bool.and_eq_true, beq_iff_eq, beq_iff_eq, Option.isNone_iff_eq_none]

/- Of the features with a documented version one has no documented size. -/
theorem ddr5Ecs_iff (featureId : Bytes) : mbcciFeatureKind featureId = .ddr5Ecs ↔
    lookupSetFeatureSizeDoc featureId = 0 ∧ lookupSetFeatureVersionDoc featureId ≠ 0 := by
  unfold lookupSetFeatureSizeDoc lookupSetFeatureVersionDoc
  cases mbcciFeatureKind featureId <;> decide

theorem ddr5Ecs_version (featureId : Bytes) (h : mbcciFeatureKind featureId = .ddr5Ecs) :
    lookupSetFeatureVersionDoc featureId = 1 := by
  rw [lookupSetFeatureVersionDoc, h]

/-- Without a table everything comes from the documents. -/
theorem documented_payload (hneed : p.needSf = false) :
    p.directPayload o dev disk = p.request o disk none := by
  obtain ⟨hsize, hversion⟩ := not_or.mp (mt (needSf_iff p).mpr (Bool.eq_false_iff.mp hneed))
  have hsizes : p.sizeFrom o dev = p.expectedSize none := by
    exact (directValue_doc o dev _ _ _ _ hsize).trans (if_pos hsize).symm
  have hversions : p.versionFrom o dev = p.versionToSet none := by
    unfold SetFeatureParams.versionFrom SetFeatureParams.versionToSet
    cases hv : p.version with
    | some v => rfl
    | none =>
      have hdoc : lookupSetFeatureVersionDoc p.featureId.val ≠ 0 := fun h => hversion ⟨hv, h⟩
      dsimp only
      rw [directValue_doc o dev _ _ _ _ hdoc]
      rfl
  rw [SetFeatureParams.directPayload, hsizes, hversions, request_eq]

/-- What a Set Feature request rests on the device's table for, both paths take from it:
the version of DDR5 ECS, which is documented, is left to the documents; and nothing
is left to it on a big-endian host. -/
def SetFeatureParams.Resolved (t : FeatureTable) : Prop :=
  p.needSf = true → p.payload disk (p.expectedSize (some (t.sdb o))) ≠ none →
    match o with
    | .little => p.version = none → mbcciFeatureKind p.featureId.val = .ddr5Ecs →
        lookupSetFeatureVersion (t.sdb .little) p.featureId.val ∈ [0, 1]
    | .big => p.version = none ∧ lookupSetFeatureVersionDoc p.featureId.val = 0 ∧
        lookupSetFeatureVersion (t.sdb .big) p.featureId.val = 0

/-- Without an answer neither command sends what it needs the table for. -/
theorem unanswered_payload (hneed : p.needSf = true) : p.directPayload o none disk = none := by
  rw [SetFeatureParams.directPayload, sent_none_iff]
  obtain hsize | ⟨hnone, hversion⟩ := (needSf_iff p).mp hneed
  · refine Or.inl ?_
    rw [SetFeatureParams.sizeFrom, directValue_none o _ _ _ _ hsize]
    rfl
  · refine Or.inr ?_
    rw [SetFeatureParams.versionFrom, hnone]
    dsimp only
    rw [directValue_none o _ _ _ _ hversion]
    rfl

theorem lookup_big (t : FeatureTable) (featureId : Bytes) :
    lookupSetFeatureSize (t.library .big) featureId = 0 ∧ lookupSetFeatureVersion (t.library .big) featureId = 0 :=
  ⟨rfl, rfl⟩

/- The library's table of no entries is as good as none. -/
theorem bigEndian_payload (t : FeatureTable) (hneed : p.needSf = true) : p.directPayload .big (some t) disk = none := by
  rw [SetFeatureParams.directPayload, sent_none_iff]
  obtain hsize | ⟨hnone, hversion⟩ := (needSf_iff p).mp hneed
  · refine Or.inl ?_
    rw [SetFeatureParams.sizeFrom, directValue_table .big _ _ _ _ t hsize, (lookup_big t _).1]
    rfl
  · refine Or.inr ?_
    rw [SetFeatureParams.versionFrom, hnone]
    dsimp only
    rw [directValue_table .big _ _ _ _ t hversion, (lookup_big t _).2]
    rfl

theorem versionToSet_none_iff (t : GetSupportedFeaturesRsp) : p.versionToSet (some t) = none ↔
    p.version = none ∧ lookupSetFeatureVersionDoc p.featureId.val = 0 ∧
      lookupSetFeatureVersion t p.featureId.val = 0 := by
  unfold SetFeatureParams.versionToSet
  cases p.version with
  | some v => exact iff_of_false nofun nofun
  | none =>
    dsimp only
    by_cases hfound : lookupSetFeatureVersion t p.featureId.val = 0
    · rw [if_neg (not_not_intro hfound)]
      by_cases hdoc : lookupSetFeatureVersionDoc p.featureId.val = 0
      · exact iff_of_true (if_pos hdoc) ⟨rfl, hdoc, hfound⟩
      · exact iff_of_false (fun h => nomatch (if_neg hdoc).symm.trans h) fun h => hdoc h.2.1
    · rw [if_pos hfound]
      exact iff_of_false (fun h => nomatch (if_neg hfound).symm.trans h) fun h => hfound h.2.2

theorem littleEndian_size (t : FeatureTable) :
    p.sizeFrom .little (some t) = p.expectedSize (some (t.sdb .little)) := by
  unfold SetFeatureParams.sizeFrom SetFeatureParams.expectedSize
  by_cases hsize : lookupSetFeatureSizeDoc p.featureId.val = 0
  · rw [directValue_table .little _ _ _ _ t hsize, hsize]
    rfl
  · rw [directValue_doc .little _ _ _ _ _ hsize]
    exact (if_pos hsize).symm

/-- The two orders of asking agree but for DDR5 ECS. -/
theorem littleEndian_version_iff (t : FeatureTable) (hneed : p.needSf = true) :
    p.versionFrom .little (some t) = p.versionToSet (some (t.sdb .little)) ↔
      (p.version = none → mbcciFeatureKind p.featureId.val = .ddr5Ecs →
        lookupSetFeatureVersion (t.sdb .little) p.featureId.val ∈ [0, 1]) := by
  have hlibrary : t.library .little = t.sdb .little := rfl
  unfold SetFeatureParams.versionFrom SetFeatureParams.versionToSet
  cases hnone : p.version with
  | some v => exact iff_of_true rfl nofun
  | none =>
    dsimp only
    generalize hfound : lookupSetFeatureVersion (t.sdb .little) p.featureId.val = found
    by_cases hdoc : lookupSetFeatureVersionDoc p.featureId.val = 0
    · -- Nothing is documented: both take the device's version, and this is not DDR5 ECS.
      rw [directValue_table .little _ _ _ _ t hdoc, hlibrary, hfound, hdoc]
      refine iff_of_true ?_ fun _ hecs => absurd hdoc ((ddr5Ecs_iff _).mp hecs).2
      by_cases hzero : found = 0
      · rw [if_pos hzero, if_neg (not_not_intro hzero), if_pos rfl]
      · rw [if_pos hzero]
    · -- The table was asked for the size alone, of the one feature that has a version only.
      have hsize := ((needSf_iff p).mp hneed).resolve_right fun h => hdoc h.2
      have hecs := (ddr5Ecs_iff _).mpr ⟨hsize, hdoc⟩
      have hone := ddr5Ecs_version _ hecs
      rw [directValue_doc .little _ _ _ _ _ hdoc, hone, if_neg (by decide)]
      by_cases hzero : found = 0
      · rw [if_neg (not_not_intro hzero), if_neg (by decide)]
        exact iff_of_true rfl fun _ _ => hzero ▸ List.mem_cons_self
      · rw [if_pos hzero, if_neg hzero]
        constructor
        · intro h _ _
          rw [← Option.some.inj h]
          decide
        · intro h
          obtain hmem | hmem := List.mem_cons.mp (h rfl hecs)
          · exact absurd hmem hzero
          · rw [List.mem_singleton.mp hmem]

theorem answered_payload_iff (t : FeatureTable) (hneed : p.needSf = true) :
    p.directPayload o (some t) disk = p.request o disk (some (t.sdb o)) ↔ p.Resolved o disk t := by
  rw [request_eq]
  cases o with
  | little =>
    rw [SetFeatureParams.directPayload, littleEndian_size, sent_eq_iff, littleEndian_version_iff p t hneed]
    exact ⟨fun h _ hsome => h.resolve_left hsome, fun h => or_iff_not_imp_left.mpr (h hneed)⟩
  | big =>
    rw [bigEndian_payload disk p t hneed, eq_comm, sent_none_iff, versionToSet_none_iff]
    exact ⟨fun h _ hsome => h.resolve_left hsome, fun h => or_iff_not_imp_left.mpr (h hneed)⟩

theorem payloads_eq_iff : p.directPayload o dev disk = p.tunnelPayload o dev disk ↔
    ∀ t, dev = some t → p.Resolved o disk t := by
  unfold SetFeatureParams.tunnelPayload
  by_cases hneed : p.needSf = true
  · rw [if_pos hneed]
    cases dev with
    | none => exact iff_of_true (unanswered_payload o disk p hneed) nofun
    | some t =>
      rw [Option.bind_some, answered_payload_iff o disk p t hneed]
      exact ⟨fun h t' ht => Option.some.inj ht ▸ h, fun h => h t rfl⟩
  · rw [if_neg hneed]
    exact iff_of_true (documented_payload o dev disk p (Bool.eq_false_iff.mpr hneed)) fun t _ h => absurd h hneed

end Compare

/-- No file of the size that is documented, or that the library finds in the table; or no
version. -/
def SetFeatureParams.Withheld (o : ByteOrder) (dev : Option FeatureTable) (disk : Disk) (p : SetFeatureParams) : Prop :=
  p.payload disk (p.sizeFrom o dev) = none ∨ p.versionFrom o dev = none

/-- The two commands are alike where the tunnel takes the arguments and what the table
says is resolved, and otherwise where the direct command has nothing to send. -/
theorem set_feature_alike_iff (o : ByteOrder) (disk : Disk) (scan : List Char → Option Byte)
    (dev : Option FeatureTable) (args : List String) :
    SetsAlike o disk scan dev args ↔ ∀ p, parseSetFeatureReq scan (portless args) = some p →
      if sdbArgs args = none then p.Withheld o dev disk else ∀ t, dev = some t → p.Resolved o disk t := by
  simp only [SetsAlike, direct_sends_iff, tunnel_sends_iff]
  cases hargs : sdbArgs args with
  | none =>
    simp only [if_true]
    constructor
    · intro h p hp
      refine (sent_none_iff o p _ _).mp (Option.eq_none_iff_forall_not_mem.mpr fun pl hpl => ?_)
      obtain ⟨a, -, ha, -⟩ := (h pl).mp ⟨p, hp, hpl⟩
      cases ha
    · intro h pl
      refine iff_of_false ?_ fun ⟨a, p, ha, _⟩ => nomatch ha
      rintro ⟨p, hp, hpl⟩
      have hnone : p.directPayload o dev disk = none := (sent_none_iff o p _ _).mpr (h p hp)
      rw [hnone] at hpl
      cases hpl
  | some a =>
    have hrest := sdbArgs_portless args a hargs
    simp only [reduceCtorEq, if_false, ← payloads_eq_iff]
    constructor
    · intro h p hp
      refine Option.ext fun pl => ?_
      constructor
      · intro hpl
        obtain ⟨a', p', ha, hp', hpl'⟩ := (h pl).mp ⟨p, hp, hpl⟩
        rw [← Option.some.inj ha, hrest] at hp'
        rwa [Option.some.inj (hp.symm.trans hp')]
      · intro hpl
        obtain ⟨p', hp', hpl'⟩ := (h pl).mpr ⟨a, p, rfl, hrest ▸ hp, hpl⟩
        rwa [Option.some.inj (hp.symm.trans hp')]
    · intro h pl
      constructor
      · rintro ⟨p, hp, hpl⟩
        exact ⟨a, p, rfl, hrest ▸ hp, h p hp ▸ hpl⟩
      · rintro ⟨a', p, ha, hp, hpl⟩
        rw [← Option.some.inj ha, hrest] at hp
        exact ⟨p, hp, h p hp ▸ hpl⟩

/-! ### DDR5 ECS at version 2 -/

def scanTwoDigits : List Char → Option Byte
  | a :: b :: _ =>
      if digitVal a < 16 ∧ digitVal b < 16 then some (Fin.ofNat 256 (16 * digitVal a + digitVal b)) else none
  | _ => none

def ecsId : Bytes := [0xe5, 0xb1, 0x3f, 0x22, 0x23, 0x28, 0x4a, 0x14, 0xb8, 0xba, 0xb9, 0x69, 0x1e, 0x89, 0x33, 0x86]

/- One entry: a Set Feature size of one byte, version 2. -/
def ecsReply : Bytes :=
  zeros 12 ++ [1] ++ zeros 7 ++ ecsId ++ zeros 4 ++ [1] ++ zeros 6 ++ [2] ++ zeros 740

def ecsTable : FeatureTable := ⟨ecsReply, by decide +kernel, by decide +kernel, by decide +kernel⟩

/- A file of two zero digits. -/
def zeroFile : File := ⟨2, fun _ => 48, by decide⟩

def ecsArgs : List String := ["--feature-id", "e5b13f22-2328-4a14-b8ba-b9691e893386", "--input", "ecs.hex"]

def ecsParams : SetFeatureParams := ⟨⟨ecsId, rfl⟩, "ecs.hex", 0, 0, none⟩

theorem ecs_parsed : parseSetFeatureReq scanTwoDigits ecsArgs = some ecsParams := rfl

def versionOne : Bytes := ecsId ++ zeros 6 ++ [1] ++ zeros 10
def versionTwo : Bytes := ecsId ++ zeros 6 ++ [2] ++ zeros 10

/-- The direct command asks for the documented version, the tunnel for the device's. -/
theorem ecs_versions_differ :
    DirectSends .little (some ecsTable) (fun _ => some zeroFile) scanTwoDigits ecsArgs versionOne ∧
      TunnelSends .little (some ecsTable) (fun _ => some zeroFile) scanTwoDigits ecsArgs versionTwo ∧
      ¬SetsAlike .little (fun _ => some zeroFile) scanTwoDigits (some ecsTable) ecsArgs := by
  have hdirect : DirectSends .little (some ecsTable) (fun _ => some zeroFile) scanTwoDigits ecsArgs versionOne :=
    (direct_sends_iff _ _ _ _ _ _).mpr ⟨ecsParams, ecs_parsed, by decide +kernel⟩
  refine ⟨hdirect, (tunnel_sends_iff _ _ _ _ _ _).mpr ⟨(0, ecsArgs), ecsParams, rfl, ecs_parsed, by decide +kernel⟩, ?_⟩
  intro h
  obtain ⟨a, p, ha, hp, hpl⟩ := (tunnel_sends_iff _ _ _ _ _ _).mp ((h versionOne).mp hdirect)
  cases ha
  cases hp.symm.trans ecs_parsed
  exact absurd hpl (by decide +kernel)

end LibCxlmi.Tools
