import LibCxlmi.Run.Dbus
import LibCxlmi.Run.Registry

/-!
# Scanning for MCTP endpoints (cxlmi.c:1357-1366, 1463-1479, 1543-1621)

The scan opens the endpoints with CXL CCI of the daemon's reply in its order,
and an open that does not succeed ends it. What the system calls of an open give
is a function of the endpoint that is opened.
-/

namespace LibCxlmi.Run
open LibCxlmi.Word LibCxlmi.Cci LibCxlmi.Transport LibCxlmi.Commands

/-! ### Opening what was found -/

def cxlmiMctpAdd (o : ByteOrder) (sys : MctpId → MctpSys) (ctx : Ctx) (id : MctpId) : Option (Ctx × ℤ) :=
  (cxlmiOpenMctp o ctx id.1 id.2 (sys id)).map fun (ctx, r) => (ctx, if r = .opened then 0 else -1)

/- The context, the code, and how many endpoints were opened. -/
def handleMctpEndpoint (o : ByteOrder) (lenient : Bool) (sys : MctpId → MctpSys) (ctx : Ctx)
    (props : List DbusProperty) : Option (Ctx × ℤ × ℕ) :=
  (readProperties lenient props ⟨none, none, false⟩).bind fun r =>
    match r with
    | .error rc => some (ctx, rc, 0)
    | .ok f =>
        if f.cxlmi then
          match f.eid, f.net with
          | some eid, some net =>
              (cxlmiMctpAdd o sys ctx (net, eid)).map fun (ctx, rc) => (ctx, rc, if rc < 0 then 0 else 1)
          | _, _ => some (ctx, -1, 0)
        else some (ctx, 0, 0)

def handleMctpObj (o : ByteOrder) (lenient : Bool) (sys : MctpId → MctpSys) (ctx : Ctx) (obj : DbusObject) :
    Option (Ctx × ℤ × ℕ) :=
  match obj.path, obj.intfs with
  | some _, some intfs =>
      (findEndpoint lenient intfs).bind fun r =>
        match r with
        | .error rc => some (ctx, rc, 0)
        | .ok none => some (ctx, 0, 0)
        | .ok (some props) => handleMctpEndpoint o lenient sys ctx props
  | _, _ => some (ctx, -1, 0)

def scanObjects (o : ByteOrder) (lenient : Bool) (sys : MctpId → MctpSys) :
    List DbusObject → Ctx → ℕ → Option (Ctx × ℤ)
  | [], ctx, _ => if lenient then some (ctx, -1) else none
  | obj :: objs, ctx, nopen =>
      (handleMctpObj o lenient sys ctx obj).bind fun (ctx, rc, opened) =>
        if rc ≠ 0 then some (ctx, if rc < 0 then rc else nopen)
        else if objs.isEmpty then some (ctx, ((nopen + opened : ℕ) : ℤ))
        else scanObjects o lenient sys objs ctx (nopen + opened)

def cxlmiScanMctp (o : ByteOrder) (lenient : Bool) (sys : MctpId → MctpSys) (ctx : Ctx) :
    DbusReply → Option (Ctx × ℤ)
  | .failed => some (ctx, -1)
  | .malformed => some (ctx, -1)
  | .objects objs => scanObjects o lenient sys objs ctx 0

/-! ### Scanning well-formed objects -/

/-- An object that lists an endpoint with CXL CCI is opened, any other is passed
over. -/
def added (o : ByteOrder) (sys : MctpId → MctpSys) (ctx : Ctx) : Option MctpId → Option (Ctx × ℤ × ℕ)
  | none => some (ctx, 0, 0)
  | some id => (cxlmiMctpAdd o sys ctx id).map fun (ctx, rc) => (ctx, rc, if rc < 0 then 0 else 1)

theorem handleMctpEndpoint_wellFormed (o : ByteOrder) (lenient : Bool) (sys : MctpId → MctpSys) (ctx : Ctx)
    (ps : List DbusProperty) (h : WellFormedEndpoint ps) :
    handleMctpEndpoint o lenient sys ctx ps = added o sys ctx (cciOf ps) := by
  obtain ⟨net, eid, hread, hnet, heid⟩ := readProperties_wellFormed lenient ps h
  rw [handleMctpEndpoint, hread, cciOf_eq ps net eid hnet heid]
  cases cxlmiOf (propertyNamed ps "SupportedMessageTypes") with
  | true => rfl
  | false => rfl

theorem handleMctpObj_wellFormed (o : ByteOrder) (lenient : Bool) (sys : MctpId → MctpSys) (ctx : Ctx)
    (obj : DbusObject) (h : obj.WellFormed) : handleMctpObj o lenient sys ctx obj = added o sys ctx obj.cci := by
  obtain ⟨is, his, hne, hall⟩ := h.intfs
  obtain ⟨path, hpath⟩ := Option.ne_none_iff_exists'.mp h.path
  have hfind := findEndpoint_eq lenient is hne fun i hi => ⟨(hall i hi).1, fun hn => by
    obtain ⟨ps, hps, -⟩ := (hall i hi).2 hn
    rw [hps]
    exact Option.some_ne_none ps⟩
  simp only [handleMctpObj, hpath, his, hfind, Option.bind_some, DbusObject.cci]
  cases hi : is.find? fun i => i.name == some mctpDbusIfaceEndpoint with
  | none => rfl
  | some i =>
    have hname := List.find?_some hi
    obtain ⟨ps, hps, hwf⟩ := (hall i (List.mem_of_find?_eq_some hi)).2 (beq_iff_eq.mp hname)
    simp only [Option.bind_some, hps]
    exact handleMctpEndpoint_wellFormed o lenient sys ctx ps hwf

/-- Opens the endpoints one after the other, and stops at the first that is not
opened. -/
def addEach (o : ByteOrder) (sys : MctpId → MctpSys) : List MctpId → Ctx → ℕ → Option (Ctx × ℤ)
  | [], ctx, nopen => some (ctx, nopen)
  | id :: ids, ctx, nopen =>
      (cxlmiMctpAdd o sys ctx id).bind fun (ctx, rc) =>
        if rc ≠ 0 then some (ctx, rc) else addEach o sys ids ctx (nopen + 1)

theorem addEach_opened (o : ByteOrder) (sys : MctpId → MctpSys) (id : MctpId) (ids : List MctpId) (ctx ctx' : Ctx)
    (nopen : ℕ) (h : cxlmiMctpAdd o sys ctx id = some (ctx', 0)) :
    addEach o sys (id :: ids) ctx nopen = addEach o sys ids ctx' (nopen + 1) := by
  rw [addEach, h]
  rfl

theorem addEach_stopped (o : ByteOrder) (sys : MctpId → MctpSys) (id : MctpId) (ids : List MctpId) (ctx ctx' : Ctx)
    (nopen : ℕ) (h : cxlmiMctpAdd o sys ctx id = some (ctx', -1)) :
    addEach o sys (id :: ids) ctx nopen = some (ctx', -1) := by
  rw [addEach, h]
  rfl

theorem cxlmiMctpAdd_rc (o : ByteOrder) (sys : MctpId → MctpSys) (ctx ctx' : Ctx) (id : MctpId) (rc : ℤ)
    (h : cxlmiMctpAdd o sys ctx id = some (ctx', rc)) : rc = 0 ∨ rc = -1 := by
  obtain ⟨⟨c, r⟩, -, hr⟩ := Option.map_eq_some_iff.mp h
  obtain ⟨-, rfl⟩ := Prod.mk.inj hr
  by_cases hro : r = .opened
  · exact Or.inl (if_pos hro)
  · exact Or.inr (if_neg hro)

theorem scanObjects_wellFormed (o : ByteOrder) (lenient : Bool) (sys : MctpId → MctpSys) (objs : List DbusObject)
    (ctx : Ctx) (nopen : ℕ) (hne : objs ≠ []) (h : ∀ obj ∈ objs, obj.WellFormed) :
    scanObjects o lenient sys objs ctx nopen = addEach o sys (objs.filterMap DbusObject.cci) ctx nopen := by
  induction objs generalizing ctx nopen with
  | nil => exact absurd rfl hne
  | cons obj objs ih =>
    -- the loop goes on, or there is nothing left to open
    have hrest : ∀ c n, (if objs.isEmpty then some (c, ((n : ℕ) : ℤ)) else scanObjects o lenient sys objs c n) =
        addEach o sys (objs.filterMap DbusObject.cci) c n := by
      intro c n
      cases objs with
      | nil => rfl
      | cons ob obs => exact ih c n (List.cons_ne_nil ob obs) fun x hx => h x (List.mem_cons_of_mem obj hx)
    rw [scanObjects, handleMctpObj_wellFormed o lenient sys ctx obj (h obj List.mem_cons_self)]
    cases hid : obj.cci with
    | none =>
      rw [List.filterMap_cons_none hid]
      exact hrest ctx nopen
    | some id =>
      rw [List.filterMap_cons_some hid, added, addEach]
      cases hadd : cxlmiMctpAdd o sys ctx id with
      | none => rfl
      | some p =>
        obtain ⟨c, rc⟩ := p
        rcases cxlmiMctpAdd_rc o sys ctx c id rc hadd with rfl | rfl
        · exact hrest c (nopen + 1)
        · rfl

end LibCxlmi.Run
