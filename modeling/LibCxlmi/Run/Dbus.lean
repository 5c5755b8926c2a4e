import LibCxlmi.Transport.Endpoint

/-!
# The MCTP daemon's reply (cxlmi.c:1368-1462, 1484-1541)

The daemon answers with an array of objects, each with an array of named
interfaces, each of these with an array of named properties. Every level is
checked while it is read.

The loops enter an array before they ask whether there is anything in it.
libdbus does not allow that on an empty array; `lenient` is whether it then
reports an entry of no type, or anything may happen.
-/

namespace LibCxlmi.Run
open LibCxlmi.Word LibCxlmi.Cci LibCxlmi.Transport

/-! ### The reply -/

inductive DbusValue where
  | byte (v : Byte)
  | uint32 (v : U 32)
  | bytes (vs : Bytes)
  | other
  deriving DecidableEq, Repr

/-- A dict entry; `none` is a name that is no string, or a value that is no
variant. -/
structure DbusProperty where
  name : Option String
  value : Option DbusValue
  deriving DecidableEq, Repr

/-- `none` is a name that is no string, or properties that are no dict. -/
structure DbusInterface where
  name : Option String
  props : Option (List DbusProperty)
  deriving DecidableEq, Repr

/-- `none` is a path that is no object path, or interfaces that are no dict. -/
structure DbusObject where
  path : Option String
  intfs : Option (List DbusInterface)
  deriving DecidableEq, Repr

/-- There is no reply, or its first argument is no dict, or it lists objects. -/
inductive DbusReply where
  | failed
  | malformed
  | objects (objs : List DbusObject)
  deriving DecidableEq, Repr

def mctpDbusIfaceEndpoint : String := "xyz.openbmc_project.MCTP.Endpoint"

/-! ### Reading it -/

def hasMessageType (val : DbusValue) (type : Byte) : Bool :=
  match val with
  | .bytes ts => ts.contains type
  | _ => false

/-- The locals of `handle_mctp_endpoint`; one that was not read is `none`. -/
structure Found where
  eid : Option Byte
  net : Option (U 32)
  cxlmi : Bool
  deriving DecidableEq, Repr

def readProperty (p : DbusProperty) (f : Found) : Except ℤ Found :=
  match p.name, p.value with
  | some name, some val =>
      if name = "EID" then
        match val with
        | .byte eid => .ok { f with eid := some eid }
        | _ => .error (-1)
      else if name = "NetworkId" then
        match val with
        | .uint32 net => .ok { f with net := some net }
        | _ => .error (-1)
      else if name = "SupportedMessageTypes" then .ok { f with cxlmi := hasMessageType val mctpTypeCxlCci }
      else .ok f
  | _, _ => .error (-1)

/-- An entry of an empty array. -/
def noEntry {α : Type} (lenient : Bool) : Option (Except ℤ α) := if lenient then some (.error (-1)) else none

def readProperties (lenient : Bool) : List DbusProperty → Found → Option (Except ℤ Found)
  | [], _ => noEntry lenient
  | p :: ps, f =>
      match readProperty p f with
      | .error rc => some (.error rc)
      | .ok f => if ps.isEmpty then some (.ok f) else readProperties lenient ps f

/-- The properties of the endpoint interface, if the object has one. -/
def findEndpoint (lenient : Bool) : List DbusInterface → Option (Except ℤ (Option (List DbusProperty)))
  | [] => noEntry lenient
  | i :: is =>
      match i.name with
      | none => some (.error (-1))
      | some name =>
          if name ≠ mctpDbusIfaceEndpoint then
            if is.isEmpty then some (.ok none) else findEndpoint lenient is
          else
            match i.props with
            | none => some (.error (-1))
            | some ps => some (.ok (some ps))

/-! ### What an object says

Names in a dict are distinct, so a property is looked up by its name. -/

abbrev MctpId := U 32 × Byte

def propertyNamed (props : List DbusProperty) (name : String) : Option DbusValue :=
  (props.find? fun p => p.name == some name).bind DbusProperty.value

/-- The endpoint that the properties describe, if it supports CXL CCI. -/
def cciOf (props : List DbusProperty) : Option MctpId :=
  match propertyNamed props "NetworkId", propertyNamed props "EID", propertyNamed props "SupportedMessageTypes" with
  | some (.uint32 net), some (.byte eid), some (.bytes ts) => if mctpTypeCxlCci ∈ ts then some (net, eid) else none
  | _, _, _ => none

def DbusObject.cci (obj : DbusObject) : Option MctpId :=
  obj.intfs.bind fun intfs =>
    (intfs.find? fun i => i.name == some mctpDbusIfaceEndpoint).bind fun i => i.props.bind cciOf

/-- Types of the properties that are read. -/
def DbusProperty.Typed (p : DbusProperty) : Prop :=
  p.name ≠ none ∧ p.value ≠ none ∧ (p.name = some "EID" → ∃ eid, p.value = some (.byte eid)) ∧
    (p.name = some "NetworkId" → ∃ net, p.value = some (.uint32 net))

structure WellFormedEndpoint (props : List DbusProperty) : Prop where
  typed : ∀ p ∈ props, p.Typed
  distinct : (props.map DbusProperty.name).Nodup
  eid : ∃ p ∈ props, p.name = some "EID"
  net : ∃ p ∈ props, p.name = some "NetworkId"

/-- An object has a path and interfaces; where one of them is that of an
endpoint, its properties are in order. -/
structure DbusObject.WellFormed (obj : DbusObject) : Prop where
  path : obj.path ≠ none
  intfs : ∃ is, obj.intfs = some is ∧ is ≠ [] ∧ ∀ i ∈ is, i.name ≠ none ∧
    (i.name = some mctpDbusIfaceEndpoint → ∃ ps, i.props = some ps ∧ WellFormedEndpoint ps)

/-! ### Reading a well-formed object -/

def eidOf : Option DbusValue → Option Byte
  | some (.byte eid) => some eid
  | _ => none

def netOf : Option DbusValue → Option (U 32)
  | some (.uint32 net) => some net
  | _ => none

def cxlmiOf : Option DbusValue → Bool
  | some val => hasMessageType val mctpTypeCxlCci
  | none => false

/-- The assignment that a loop makes for the property `name`. -/
def assign {α : Type} (name : String) (val : Option DbusValue → α) (a : α) (p : DbusProperty) : α :=
  if p.name = some name then val p.value else a

def Found.note (f : Found) (p : DbusProperty) : Found :=
  ⟨assign "EID" eidOf f.eid p, assign "NetworkId" netOf f.net p, assign "SupportedMessageTypes" cxlmiOf f.cxlmi p⟩

theorem readProperty_typed (p : DbusProperty) (f : Found) (h : p.Typed) : readProperty p f = .ok (f.note p) := by
  obtain ⟨name, val⟩ := p
  obtain ⟨hname, hval, heid, hnet⟩ := h
  obtain ⟨name, rfl⟩ := Option.ne_none_iff_exists'.mp hname
  obtain ⟨val, rfl⟩ := Option.ne_none_iff_exists'.mp hval
  simp only [readProperty, Found.note, assign, Option.some.injEq]
  by_cases h1 : name = "EID"
  · subst h1
    obtain ⟨eid, heid⟩ := heid rfl
    obtain rfl := Option.some.inj heid
    rfl
  · by_cases h2 : name = "NetworkId"
    · subst h2
      obtain ⟨net, hnet⟩ := hnet rfl
      obtain rfl := Option.some.inj hnet
      rfl
    · by_cases h3 : name = "SupportedMessageTypes"
      · subst h3
        rfl
      · simp only [if_neg h1, if_neg h2, if_neg h3]

theorem readProperties_typed (lenient : Bool) (ps : List DbusProperty) (f : Found) (hne : ps ≠ [])
    (h : ∀ p ∈ ps, p.Typed) : readProperties lenient ps f = some (.ok (ps.foldl Found.note f)) := by
  induction ps generalizing f with
  | nil => exact absurd rfl hne
  | cons p ps ih =>
    rw [readProperties, readProperty_typed p f (h p List.mem_cons_self)]
    cases ps with
    | nil => rfl
    | cons q ps => exact ih (f.note p) (List.cons_ne_nil q ps) fun r hr => h r (List.mem_cons_of_mem p hr)

theorem propertyNamed_cons (p : DbusProperty) (ps : List DbusProperty) (name : String) :
    propertyNamed (p :: ps) name = if p.name = some name then p.value else propertyNamed ps name := by
  unfold propertyNamed
  rw [List.find?_cons]
  by_cases hp : p.name = some name
  · simp only [hp, beq_self_eq_true, if_true, Option.bind_some]
  · simp only [beq_false_of_ne hp, if_neg hp]

section
variable {α : Type} (name : String) (val : Option DbusValue → α)

theorem foldl_assign_absent (ps : List DbusProperty) (a : α) (h : ∀ p ∈ ps, p.name ≠ some name) :
    ps.foldl (assign name val) a = a := by
  induction ps with
  | nil => rfl
  | cons p ps ih =>
    rw [List.foldl_cons, assign, if_neg (h p List.mem_cons_self)]
    exact ih fun q hq => h q (List.mem_cons_of_mem p hq)

/- Names are distinct, so the last assignment is the only one. -/
theorem foldl_assign (ps : List DbusProperty) (hd : (ps.map DbusProperty.name).Nodup) :
    ps.foldl (assign name val) (val none) = val (propertyNamed ps name) := by
  induction ps with
  | nil => rfl
  | cons p ps ih =>
    rw [List.map_cons, List.nodup_cons] at hd
    rw [List.foldl_cons, propertyNamed_cons, assign]
    by_cases hp : p.name = some name
    · rw [if_pos hp, if_pos hp]
      apply foldl_assign_absent
      intro q hq hqn
      exact hd.1 (List.mem_map.mpr ⟨q, hq, hqn.trans hp.symm⟩)
    · rw [if_neg hp, if_neg hp]
      exact ih hd.2

end

theorem foldl_note (ps : List DbusProperty) (f : Found) :
    ps.foldl Found.note f = ⟨ps.foldl (assign "EID" eidOf) f.eid, ps.foldl (assign "NetworkId" netOf) f.net,
      ps.foldl (assign "SupportedMessageTypes" cxlmiOf) f.cxlmi⟩ := by
  induction ps generalizing f with
  | nil => rfl
  | cons p ps ih => exact ih (f.note p)

theorem propertyNamed_mem (ps : List DbusProperty) (name : String) (h : ∃ p ∈ ps, p.name = some name) :
    ∃ p ∈ ps, p.name = some name ∧ propertyNamed ps name = p.value := by
  induction ps with
  | nil =>
    obtain ⟨p, hp, -⟩ := h
    cases hp
  | cons q ps ih =>
    rw [propertyNamed_cons]
    by_cases hq : q.name = some name
    · exact ⟨q, List.mem_cons_self, hq, if_pos hq⟩
    · obtain ⟨p, hp, hn⟩ := h
      rcases List.mem_cons.mp hp with rfl | hp
      · exact absurd hn hq
      · obtain ⟨r, hr, hrn, hv⟩ := ih ⟨p, hp, hn⟩
        exact ⟨r, List.mem_cons_of_mem q hr, hrn, (if_neg hq).trans hv⟩

/-- What the loop over the properties of an endpoint leaves in its locals. -/
theorem readProperties_wellFormed (lenient : Bool) (ps : List DbusProperty) (h : WellFormedEndpoint ps) :
    ∃ net eid, readProperties lenient ps ⟨none, none, false⟩ =
        some (.ok ⟨some eid, some net, cxlmiOf (propertyNamed ps "SupportedMessageTypes")⟩) ∧
      propertyNamed ps "NetworkId" = some (.uint32 net) ∧ propertyNamed ps "EID" = some (.byte eid) := by
  obtain ⟨pe, hpe, hen, hev⟩ := propertyNamed_mem ps "EID" h.eid
  obtain ⟨pn, hpn, hnn, hnv⟩ := propertyNamed_mem ps "NetworkId" h.net
  obtain ⟨eid, heid⟩ := (h.typed pe hpe).2.2.1 hen
  obtain ⟨net, hnet⟩ := (h.typed pn hpn).2.2.2 hnn
  have h1 := foldl_assign "EID" eidOf ps h.distinct
  have h2 := foldl_assign "NetworkId" netOf ps h.distinct
  have h3 := foldl_assign "SupportedMessageTypes" cxlmiOf ps h.distinct
  rw [hev, heid] at h1
  rw [hnv, hnet] at h2
  refine ⟨net, eid, ?_, hnv.trans hnet, hev.trans heid⟩
  rw [readProperties_typed lenient ps _ (List.ne_nil_of_mem hpe) h.typed, foldl_note]
  exact congrArg (fun f => some (Except.ok f)) (congr (congr (congrArg Found.mk h1) h2) h3)

theorem cciOf_eq (ps : List DbusProperty) (net : U 32) (eid : Byte)
    (hnet : propertyNamed ps "NetworkId" = some (.uint32 net)) (heid : propertyNamed ps "EID" = some (.byte eid)) :
    cciOf ps = if cxlmiOf (propertyNamed ps "SupportedMessageTypes") then some (net, eid) else none := by
  rw [cciOf, hnet, heid]
  cases propertyNamed ps "SupportedMessageTypes" with
  | none => rfl
  | some val =>
    cases val with
    | bytes ts => simp only [cxlmiOf, hasMessageType, List.contains_iff_mem]
    | byte v => rfl
    | uint32 v => rfl
    | other => rfl

theorem findEndpoint_eq (lenient : Bool) (is : List DbusInterface) (hne : is ≠ [])
    (h : ∀ i ∈ is, i.name ≠ none ∧ (i.name = some mctpDbusIfaceEndpoint → i.props ≠ none)) :
    findEndpoint lenient is =
      some (.ok ((is.find? fun i => i.name == some mctpDbusIfaceEndpoint).bind DbusInterface.props)) := by
  induction is with
  | nil => exact absurd rfl hne
  | cons i is ih =>
    obtain ⟨hname, hprops⟩ := h i List.mem_cons_self
    obtain ⟨name, hn⟩ := Option.ne_none_iff_exists'.mp hname
    rw [List.find?_cons, findEndpoint]
    simp only [hn]
    by_cases hep : name = mctpDbusIfaceEndpoint
    · obtain ⟨ps, hps⟩ := Option.ne_none_iff_exists'.mp (hprops (hn.trans (congrArg some hep)))
      simp only [hep, ne_eq, not_true_eq_false, if_false, hps, beq_self_eq_true, Option.bind_some]
    · have hneq : (some name == some mctpDbusIfaceEndpoint) = false :=
        beq_false_of_ne fun he => hep (Option.some.inj he)
      simp only [ne_eq, hep, not_false_eq_true, if_true, hneq]
      cases is with
      | nil => rfl
      | cons j is => exact ih (List.cons_ne_nil j is) fun k hk => h k (List.mem_cons_of_mem i hk)

end LibCxlmi.Run
