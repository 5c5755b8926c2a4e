import LibCxlmi.Run.ScanMctp
import Mathlib.Data.List.Nodup

/-!
# Enumerating MCTP endpoints

A scan should open every endpoint with CXL CCI that the daemon lists, in
whatever order it lists them. The loop of `cxlmi_scan_mctp` ends at the first
object whose endpoint is not opened, be it for want of a socket or because it is
open already, and the objects behind it are not looked at.
-/

namespace LibCxlmi.Contract
open LibCxlmi.Word LibCxlmi.Cci LibCxlmi.Transport LibCxlmi.Commands LibCxlmi.Run

/-- How often the endpoint is on the list of the context. -/
def openCount (ctx : Ctx) (id : MctpId) : ℕ := ctx.endpoints.countP fun r => r.identity = .mctp id.1 id.2

def AlreadyOpen (ctx : Ctx) (id : MctpId) : Prop := ∃ r ∈ ctx.endpoints, r.identity = .mctp id.1 id.2

/-- The loop against duplicates finds the endpoint, or takes a mock for it. -/
def Met (ctx : Ctx) (id : MctpId) : Prop :=
  ∃ r ∈ ctx.endpoints, r.identity = .mctp id.1 id.2 ∨ (r.identity = .mock ∧ id.1 = mockMagic ∧ id.2 = 0)

/-- An open of the endpoint succeeds. -/
structure Opens (sys : MctpId → MctpSys) (ctx : Ctx) (id : MctpId) : Prop where
  unmet : ¬Met ctx id
  ready : (sys id).Ready
  defined : ¬(id.1 = mockMagic ∧ ctx.probeEnabled = true ∧ (sys id).probe.alloc .response 30 = true)

/-! ### One open -/

theorem met_of_alreadyOpen (ctx : Ctx) (id : MctpId) (h : AlreadyOpen ctx id) : Met ctx id := by
  obtain ⟨r, hr, hid⟩ := h
  exact ⟨r, hr, Or.inl hid⟩

section
variable (o : ByteOrder) (sys : MctpId → MctpSys) (ctx : Ctx) (id : MctpId)

theorem add_refused (h : Met ctx id ∨ ¬(sys id).Ready) : cxlmiMctpAdd o sys ctx id = some (ctx, -1) := by
  unfold cxlmiMctpAdd
  rcases cxlmiOpenMctp_cases o ctx id.1 id.2 (sys id) with ⟨hrun, -⟩ | ⟨hunmet, hrun⟩
  · rw [hrun]
    rfl
  · have hnot : ¬(sys id).Ready := h.resolve_left hunmet
    rcases hrun with ⟨hrun, -⟩ | ⟨-, hready, -⟩ | ⟨r, -, hready, -⟩
    · rw [hrun]
      rfl
    · exact absurd hready hnot
    · exact absurd hready hnot

theorem add_opens (h : Opens sys ctx id) :
    ∃ r, cxlmiMctpAdd o sys ctx id = some (ctx.add r, 0) ∧ r.identity = .mctp id.1 id.2 := by
  unfold cxlmiMctpAdd
  rcases cxlmiOpenMctp_cases o ctx id.1 id.2 (sys id) with ⟨-, hmet⟩ | ⟨-, hrun⟩
  · exact absurd hmet h.unmet
  · rcases hrun with ⟨-, hnot⟩ | ⟨-, -, hbad⟩ | ⟨r, hrun, -, hid, -⟩
    · exact absurd h.ready hnot
    · exact absurd hbad h.defined
    · rw [hrun]
      exact ⟨r, rfl, hid⟩

/-- An open that does not succeed leaves the list as it was, or is undefined. -/
theorem add_of_not_opens (h : ¬Opens sys ctx id) :
    cxlmiMctpAdd o sys ctx id = some (ctx, -1) ∨ cxlmiMctpAdd o sys ctx id = none := by
  by_cases hr : Met ctx id ∨ ¬(sys id).Ready
  · exact Or.inl (add_refused o sys ctx id hr)
  · right
    obtain ⟨hunmet, hready⟩ := not_or.mp hr
    have hready := not_not.mp hready
    unfold cxlmiMctpAdd
    rcases cxlmiOpenMctp_cases o ctx id.1 id.2 (sys id) with ⟨-, hmet⟩ | ⟨-, hrun⟩
    · exact absurd hmet hunmet
    · rcases hrun with ⟨-, hnot⟩ | ⟨hrun, -⟩ | ⟨r, -, -, -, hok⟩
      · exact absurd hready hnot
      · rw [hrun]
        rfl
      · exact absurd ⟨hunmet, hready, hok⟩ h

end

theorem openCount_add (ctx : Ctx) (r : Registered) (id id' : MctpId) (hr : r.identity = .mctp id.1 id.2) :
    openCount (ctx.add r) id' = openCount ctx id' + if id = id' then 1 else 0 := by
  have hiff : r.identity = .mctp id'.1 id'.2 ↔ id = id' := by
    rw [hr, Identity.mctp.injEq, Prod.ext_iff]
  simp only [openCount, Ctx.add, List.countP_cons, decide_eq_true_eq, hiff]

theorem openCount_eq_zero (ctx : Ctx) (id : MctpId) (h : ¬AlreadyOpen ctx id) : openCount ctx id = 0 := by
  refine List.countP_eq_zero.mpr fun r hr hid => ?_
  exact h ⟨r, hr, of_decide_eq_true hid⟩

theorem openCount_eq_one (ctx : Ctx) (id : MctpId) (hu : ctx.Unique) (h : AlreadyOpen ctx id) :
    openCount ctx id = 1 := by
  obtain ⟨probeEnabled, rs⟩ := ctx
  unfold Ctx.Unique at hu
  unfold openCount
  obtain ⟨r, hr, hid⟩ := h
  simp only at hu hr ⊢
  induction rs with
  | nil => cases hr
  | cons s rs ih =>
    obtain ⟨hs, hrs⟩ := List.pairwise_cons.mp hu
    by_cases hsid : s.identity = .mctp id.1 id.2
    · -- the rest has other identities
      have hnone : rs.countP (fun r => r.identity = .mctp id.1 id.2) = 0 := by
        refine List.countP_eq_zero.mpr fun t ht htid => ?_
        have hmock := hs t ht (hsid.trans (of_decide_eq_true htid).symm)
        rw [hsid] at hmock
        cases hmock
      rw [List.countP_cons, hnone, hsid]
      simp only [decide_true, if_true]
    · rw [List.countP_cons, decide_eq_false hsid]
      rcases List.mem_cons.mp hr with rfl | hr
      · exact absurd hid hsid
      · exact ih hrs hr

theorem opens_add (sys : MctpId → MctpSys) (ctx : Ctx) (r : Registered) (id id' : MctpId)
    (hr : r.identity = .mctp id.1 id.2) (hne : id ≠ id') (h : Opens sys ctx id') : Opens sys (ctx.add r) id' := by
  refine ⟨?_, h.ready, h.defined⟩
  rintro ⟨s, hs, hid⟩
  rcases List.mem_cons.mp hs with rfl | hs
  · rw [hr] at hid
    rcases hid with hid | ⟨hid, -⟩
    · obtain ⟨h1, h2⟩ := Identity.mctp.inj hid
      exact hne (Prod.ext h1 h2)
    · cases hid
  · exact h.unmet ⟨s, hs, hid⟩

theorem met_add (ctx : Ctx) (r : Registered) (id : MctpId) (hr : r.identity = .mctp id.1 id.2) :
    Met (ctx.add r) id :=
  ⟨r, List.mem_cons_self, Or.inl hr⟩

/-! ### A scan of distinct endpoints that can be opened -/

theorem addEach_opens (o : ByteOrder) (sys : MctpId → MctpSys) (ids : List MctpId) (ctx : Ctx) (n : ℕ)
    (hd : ids.Nodup) (h : ∀ id ∈ ids, Opens sys ctx id) :
    ∃ ctx', addEach o sys ids ctx n = some (ctx', ((n + ids.length : ℕ) : ℤ)) ∧
      ∀ id, openCount ctx' id = openCount ctx id + ids.count id := by
  induction ids generalizing ctx n with
  | nil => exact ⟨ctx, rfl, fun id => rfl⟩
  | cons id ids ih =>
    obtain ⟨hid, hd⟩ := List.nodup_cons.mp hd
    obtain ⟨r, hadd, hr⟩ := add_opens o sys ctx id (h id List.mem_cons_self)
    obtain ⟨ctx', hrun, hcount⟩ := ih (ctx.add r) (n + 1) hd fun id' hid' =>
      opens_add sys ctx r id id' hr (fun he => hid (he ▸ hid')) (h id' (List.mem_cons_of_mem id hid'))
    refine ⟨ctx', ?_, fun id' => ?_⟩
    · rw [addEach_opened o sys id ids ctx _ n hadd, hrun, List.length_cons, Nat.add_right_comm, Nat.add_assoc]
    · rw [hcount, openCount_add ctx r id id' hr, List.count_cons, Nat.add_assoc, Nat.add_comm (ids.count id')]
      simp only [beq_iff_eq]

/-- Whatever the order, the scan gives the same code and the same endpoints, and
each one with a socket is open once. -/
def EachOpened (o : ByteOrder) (sys : MctpId → MctpSys) (ctx : Ctx) (ids : List MctpId) : Prop :=
  ∃ (rc : ℤ) (count : MctpId → ℕ), ∀ l : List MctpId, l.Perm ids → ∃ ctx', addEach o sys l ctx 0 = some (ctx', rc) ∧
    (∀ id, openCount ctx' id = count id) ∧ ∀ id ∈ ids, (sys id).Ready → openCount ctx' id = 1

theorem eachOpened_of_none (o : ByteOrder) (sys : MctpId → MctpSys) (ctx : Ctx) (ids : List MctpId) (hu : ctx.Unique)
    (h : ∀ id ∈ ids, AlreadyOpen ctx id ∨ ¬(sys id).Ready) : EachOpened o sys ctx ids := by
  have hone : ∀ id ∈ ids, (sys id).Ready → openCount ctx id = 1 := by
    intro id hid hready
    exact openCount_eq_one ctx id hu ((h id hid).resolve_right (not_not.mpr hready))
  cases hids : ids with
  | nil =>
    refine ⟨0, openCount ctx, fun l hl => ⟨ctx, ?_, fun _ => rfl, hids ▸ hone⟩⟩
    rw [hl.eq_nil]
    rfl
  | cons id₀ rest =>
    refine ⟨-1, openCount ctx, fun l hl => ⟨ctx, ?_, fun _ => rfl, hids ▸ hone⟩⟩
    cases l with
    | nil => exact absurd hl.symm.eq_nil (List.cons_ne_nil id₀ rest)
    | cons id l =>
      have hid : id ∈ ids := hids ▸ hl.mem_iff.mp List.mem_cons_self
      exact addEach_stopped o sys id l ctx ctx 0
        (add_refused o sys ctx id ((h id hid).imp (met_of_alreadyOpen ctx id) fun hn => hn))

theorem eachOpened_of_nodup (o : ByteOrder) (sys : MctpId → MctpSys) (ctx : Ctx) (ids : List MctpId)
    (h : ∀ id ∈ ids, Opens sys ctx id) (hd : ids.Nodup) : EachOpened o sys ctx ids := by
  refine ⟨ids.length, fun id => openCount ctx id + ids.count id, fun l hl => ?_⟩
  obtain ⟨ctx', hrun, hcount⟩ := addEach_opens o sys l ctx 0 (hl.nodup_iff.mpr hd) fun id hid =>
    h id (hl.mem_iff.mp hid)
  refine ⟨ctx', ?_, fun id => ?_, fun id hid _ => ?_⟩
  · rw [hrun, Nat.zero_add, hl.length_eq]
  · rw [hcount, hl.count_eq]
  · have hzero := openCount_eq_zero ctx id fun ha => (h id hid).unmet (met_of_alreadyOpen ctx id ha)
    rw [hcount, hl.count_eq, hzero, List.count_eq_one_of_mem hd hid]

/- One endpoint listed several times is opened the first time. -/
theorem eachOpened_of_same (o : ByteOrder) (sys : MctpId → MctpSys) (ctx : Ctx) (ids : List MctpId)
    (h : ∀ id ∈ ids, Opens sys ctx id) (hsame : ∀ a ∈ ids, ∀ b ∈ ids, a = b) : EachOpened o sys ctx ids := by
  match ids, h, hsame with
  | [], h, _ => exact eachOpened_of_nodup o sys ctx [] h List.nodup_nil
  | [id], h, _ => exact eachOpened_of_nodup o sys ctx [id] h (List.nodup_singleton id)
  | id :: id' :: rest, h, hsame =>
    have hrep : id :: id' :: rest = List.replicate (rest.length + 2) id :=
      List.eq_replicate_iff.mpr ⟨rfl, fun b hb => hsame b hb id List.mem_cons_self⟩
    have hopen := h id List.mem_cons_self
    obtain ⟨r, hadd, hr⟩ := add_opens o sys ctx id hopen
    refine ⟨-1, openCount (ctx.add r), fun l hl => ⟨ctx.add r, ?_, fun _ => rfl, fun a ha _ => ?_⟩⟩
    · rw [hrep] at hl
      rw [List.perm_replicate.mp hl, List.replicate_succ, List.replicate_succ, addEach_opened o sys id _ ctx _ 0 hadd]
      exact addEach_stopped o sys id _ _ _ _ (add_refused o sys (ctx.add r) id (Or.inl (met_add ctx r id hr)))
    · have hzero := openCount_eq_zero ctx id fun ho => hopen.unmet (met_of_alreadyOpen ctx id ho)
      rw [hsame a ha id List.mem_cons_self, openCount_add ctx r id id hr, hzero, if_pos rfl]

/-! ### What stops a scan -/

/- A listed endpoint that is not opened, in front of one that could be. -/
theorem opens_of_eachOpened (o : ByteOrder) (sys : MctpId → MctpSys) (ctx : Ctx) (ids : List MctpId)
    (h : EachOpened o sys ctx ids) (a : MctpId) (ha : a ∈ ids) (hready : (sys a).Ready) (hnew : ¬AlreadyOpen ctx a)
    (b : MctpId) (hb : b ∈ ids) : Opens sys ctx b := by
  by_contra hbad
  obtain ⟨rc, count, hall⟩ := h
  obtain ⟨ctx', hrun, -, hone⟩ := hall (b :: ids.erase b) (List.perm_cons_erase hb).symm
  rcases add_of_not_opens o sys ctx b hbad with hadd | hadd
  · rw [addEach_stopped o sys b _ ctx ctx 0 hadd] at hrun
    obtain ⟨rfl, -⟩ := Prod.mk.inj (Option.some.inj hrun)
    have hcount := hone a ha hready
    rw [openCount_eq_zero ctx a hnew] at hcount
    cases hcount
  · rw [addEach, hadd] at hrun
    cases hrun

/- An endpoint listed twice, in front of another one. -/
theorem not_duplicate_of_eachOpened (o : ByteOrder) (sys : MctpId → MctpSys) (ctx : Ctx) (ids : List MctpId)
    (h : EachOpened o sys ctx ids) (hopens : ∀ id ∈ ids, Opens sys ctx id) (a b : MctpId) (hab : a ≠ b)
    (hb : b ∈ ids) : ¬[a, a].Sublist ids := by
  intro hsub
  obtain ⟨rest, hperm⟩ := hsub.exists_perm_append
  obtain ⟨rc, count, hall⟩ := h
  obtain ⟨ctx', hrun, -, hone⟩ := hall ([a, a] ++ rest) hperm.symm
  have ha : a ∈ ids := hsub.subset List.mem_cons_self
  obtain ⟨r, hadd, hr⟩ := add_opens o sys ctx a (hopens a ha)
  have hstop := add_refused o sys (ctx.add r) a (Or.inl (met_add ctx r a hr))
  rw [List.cons_append, List.cons_append, addEach_opened o sys a _ ctx _ 0 hadd,
    addEach_stopped o sys a _ _ _ _ hstop] at hrun
  obtain ⟨rfl, -⟩ := Prod.mk.inj (Option.some.inj hrun)
  have hcount := hone b hb (hopens b hb).ready
  have hzero := openCount_eq_zero ctx b fun ho => (hopens b hb).unmet (met_of_alreadyOpen ctx b ho)
  rw [openCount_add ctx r a b hr, hzero, if_neg hab] at hcount
  cases hcount

/-- There is nothing to open, or every listed endpoint can be opened and no two
objects list the same one, unless all do. -/
def Enumerable (sys : MctpId → MctpSys) (ctx : Ctx) (ids : List MctpId) : Prop :=
  (∀ id ∈ ids, AlreadyOpen ctx id ∨ ¬(sys id).Ready) ∨
    ((∀ id ∈ ids, Opens sys ctx id) ∧ (ids.Nodup ∨ ∀ a ∈ ids, ∀ b ∈ ids, a = b))

theorem eachOpened_iff (o : ByteOrder) (sys : MctpId → MctpSys) (ctx : Ctx) (ids : List MctpId) (hu : ctx.Unique) :
    EachOpened o sys ctx ids ↔ Enumerable sys ctx ids := by
  constructor
  · intro h
    by_cases hnone : ∀ id ∈ ids, AlreadyOpen ctx id ∨ ¬(sys id).Ready
    · exact Or.inl hnone
    · push Not at hnone
      obtain ⟨a, ha, hnew, hready⟩ := hnone
      have hopens := fun b hb => opens_of_eachOpened o sys ctx ids h a ha hready hnew b hb
      refine Or.inr ⟨hopens, ?_⟩
      by_contra hdup
      obtain ⟨hdup, hsame⟩ := not_or.mp hdup
      rw [List.nodup_iff_sublist] at hdup
      push Not at hdup hsame
      obtain ⟨x, hx⟩ := hdup
      obtain ⟨c, hc, d, hd, hcd⟩ := hsame
      -- one of the two differs from the endpoint listed twice
      by_cases hxc : x = c
      · exact not_duplicate_of_eachOpened o sys ctx ids h hopens x d (hxc ▸ hcd) hd hx
      · exact not_duplicate_of_eachOpened o sys ctx ids h hopens x c hxc hc hx
  · intro h
    rcases h with hnone | ⟨hopens, hd | hsame⟩
    · exact eachOpened_of_none o sys ctx ids hu hnone
    · exact eachOpened_of_nodup o sys ctx ids hopens hd
    · exact eachOpened_of_same o sys ctx ids hopens hsame

/-! ### Lists of objects -/

/- Every order of what a list yields is the order of a list. -/
theorem exists_perm_filterMap {α β : Type} (f : α → Option β) (l₁ l₂ : List β) (h : l₁.Perm l₂) (xs : List α)
    (hx : xs.filterMap f = l₁) : ∃ ys : List α, ys.Perm xs ∧ ys.filterMap f = l₂ := by
  induction h generalizing xs with
  | nil => exact ⟨xs, List.Perm.refl xs, hx⟩
  | cons b h ih =>
    obtain ⟨pre, a, post, rfl, hpre, ha, hpost⟩ := List.filterMap_eq_cons_iff.mp hx
    obtain ⟨post', hperm, hpost'⟩ := ih post hpost
    refine ⟨pre ++ a :: post', (hperm.cons a).append_left pre, ?_⟩
    rw [List.filterMap_append, List.filterMap_cons_some ha, hpost', List.filterMap_eq_nil_iff.mpr hpre,
      List.nil_append]
  | swap b c l =>
    obtain ⟨pre, a, post, rfl, hpre, ha, hpost⟩ := List.filterMap_eq_cons_iff.mp hx
    obtain ⟨mid, a', post', rfl, hmid, ha', hpost'⟩ := List.filterMap_eq_cons_iff.mp hpost
    refine ⟨a' :: (pre ++ a :: (mid ++ post')), ?_, ?_⟩
    · have h1 : (a' :: (mid ++ post')).Perm (mid ++ a' :: post') := List.perm_middle.symm
      have h2 := (h1.cons a).append_left pre
      refine List.Perm.trans ?_ h2
      refine List.Perm.trans List.perm_middle.symm ?_
      exact (List.Perm.swap a a' _).append_left pre
    · rw [List.filterMap_cons_some ha', List.filterMap_append, List.filterMap_cons_some ha, List.filterMap_append,
        List.filterMap_eq_nil_iff.mpr hpre, List.filterMap_eq_nil_iff.mpr hmid, List.nil_append, List.nil_append,
        hpost']
  | trans _ _ ih₁ ih₂ =>
    obtain ⟨ys, hys, hy⟩ := ih₁ xs hx
    obtain ⟨zs, hzs, hz⟩ := ih₂ ys hy
    exact ⟨zs, hzs.trans hys, hz⟩

/-- The scan is complete: in whatever order the objects are listed, it gives the
same code and the same endpoints, and every endpoint with CXL CCI is open once
unless its socket could not be created. -/
def ScanComplete (o : ByteOrder) (lenient : Bool) (sys : MctpId → MctpSys) (ctx : Ctx) (objs : List DbusObject) :
    Prop :=
  ∃ (rc : ℤ) (count : MctpId → ℕ), ∀ objs' : List DbusObject, objs'.Perm objs →
    ∃ ctx', cxlmiScanMctp o lenient sys ctx (.objects objs') = some (ctx', rc) ∧
      (∀ id, openCount ctx' id = count id) ∧
      ∀ id ∈ objs.filterMap DbusObject.cci, (sys id).Ready → openCount ctx' id = 1

theorem scanComplete_eachOpened (o : ByteOrder) (lenient : Bool) (sys : MctpId → MctpSys) (ctx : Ctx)
    (objs : List DbusObject) (hne : objs ≠ []) (hwf : ∀ obj ∈ objs, obj.WellFormed) :
    ScanComplete o lenient sys ctx objs ↔ EachOpened o sys ctx (objs.filterMap DbusObject.cci) := by
  have hscan : ∀ objs' : List DbusObject, objs'.Perm objs → cxlmiScanMctp o lenient sys ctx (.objects objs') =
      addEach o sys (objs'.filterMap DbusObject.cci) ctx 0 := by
    intro objs' hp
    refine scanObjects_wellFormed o lenient sys objs' ctx 0 ?_ fun obj hobj => hwf obj (hp.mem_iff.mp hobj)
    intro hnil
    exact hne (hnil ▸ hp).symm.eq_nil
  constructor
  · rintro ⟨rc, count, hall⟩
    refine ⟨rc, count, fun l hl => ?_⟩
    obtain ⟨objs', hp, hl'⟩ := exists_perm_filterMap DbusObject.cci _ l hl.symm objs rfl
    obtain ⟨ctx', hrun, hrest⟩ := hall objs' hp
    rw [hscan objs' hp, hl'] at hrun
    exact ⟨ctx', hrun, hrest⟩
  · rintro ⟨rc, count, hall⟩
    refine ⟨rc, count, fun objs' hp => ?_⟩
    obtain ⟨ctx', hrun, hrest⟩ := hall _ (hp.filterMap DbusObject.cci)
    exact ⟨ctx', (hscan objs' hp).trans hrun, hrest⟩

theorem scanComplete_nil (o : ByteOrder) (lenient : Bool) (sys : MctpId → MctpSys) (ctx : Ctx) :
    ScanComplete o lenient sys ctx [] ↔ lenient = true := by
  constructor
  · rintro ⟨rc, count, hall⟩
    obtain ⟨ctx', hrun, -⟩ := hall [] (List.Perm.refl [])
    cases lenient with
    | true => rfl
    | false => cases hrun
  · rintro rfl
    refine ⟨-1, openCount ctx, fun objs' hp => ⟨ctx, ?_, fun _ => rfl, fun id hid => ?_⟩⟩
    · rw [hp.eq_nil]
      rfl
    · cases hid

/-- A scan of well-formed objects is complete exactly if it has nothing to open,
or can open every endpoint listed, each of them listed once or all the same one;
an empty reply is up to libdbus. -/
theorem scan_complete_iff (o : ByteOrder) (lenient : Bool) (sys : MctpId → MctpSys) (ctx : Ctx)
    (objs : List DbusObject) (hu : ctx.Unique) (hwf : ∀ obj ∈ objs, obj.WellFormed) :
    ScanComplete o lenient sys ctx objs ↔
      (objs = [] → lenient = true) ∧ Enumerable sys ctx (objs.filterMap DbusObject.cci) := by
  cases objs with
  | nil =>
    rw [scanComplete_nil]
    constructor
    · intro h
      exact ⟨fun _ => h, Or.inl fun id hid => by cases hid⟩
    · intro h
      exact h.1 rfl
  | cons obj objs =>
    rw [scanComplete_eachOpened o lenient sys ctx _ (List.cons_ne_nil obj objs) hwf, eachOpened_iff o sys ctx _ hu]
    constructor
    · intro h
      exact ⟨fun hnil => absurd hnil (List.cons_ne_nil obj objs), h⟩
    · intro h
      exact h.2

/-! ### Two endpoints of one network -/

/-- An endpoint of network 1 as the daemon describes it. -/
def listedEndpoint (eid : Byte) : DbusObject :=
  ⟨some "/xyz/openbmc_project/mctp/1", some [⟨some "org.freedesktop.DBus.Peer", some []⟩,
    ⟨some mctpDbusIfaceEndpoint, some [⟨some "EID", some (.byte eid)⟩, ⟨some "NetworkId", some (.uint32 1)⟩,
      ⟨some "SupportedMessageTypes", some (.bytes [0x00, mctpTypeCxlCci])⟩, ⟨some "UUID", some .other⟩]⟩]⟩

theorem listedEndpoint_wellFormed (eid : Byte) : (listedEndpoint eid).WellFormed := by
  refine ⟨Option.some_ne_none _, _, rfl, List.cons_ne_nil _ _, fun i hi => ?_⟩
  simp only [List.mem_cons, List.not_mem_nil, or_false] at hi
  rcases hi with rfl | rfl
  · exact ⟨Option.some_ne_none _, fun h => absurd (Option.some.inj h) (by decide)⟩
  · have hnames : [some "EID", some "NetworkId", some "SupportedMessageTypes", some "UUID"].Nodup := by decide
    refine ⟨Option.some_ne_none _, fun _ => ⟨_, rfl, fun p hp => ?_, hnames, ?_, ?_⟩⟩
    · simp only [List.mem_cons, List.not_mem_nil, or_false] at hp
      rcases hp with rfl | rfl | rfl | rfl
      · exact ⟨Option.some_ne_none _, Option.some_ne_none _, fun _ => ⟨eid, rfl⟩,
          fun h => absurd (Option.some.inj h) (by decide)⟩
      · exact ⟨Option.some_ne_none _, Option.some_ne_none _, fun h => absurd (Option.some.inj h) (by decide),
          fun _ => ⟨1, rfl⟩⟩
      · exact ⟨Option.some_ne_none _, Option.some_ne_none _, fun h => absurd (Option.some.inj h) (by decide),
          fun h => absurd (Option.some.inj h) (by decide)⟩
      · exact ⟨Option.some_ne_none _, Option.some_ne_none _, fun h => absurd (Option.some.inj h) (by decide),
          fun h => absurd (Option.some.inj h) (by decide)⟩
    · exact ⟨_, List.mem_cons_self, rfl⟩
    · exact ⟨_, List.mem_cons_of_mem _ List.mem_cons_self, rfl⟩

/-- No socket for the endpoint `eid`. -/
def socketsBut (eid : Option Byte) (id : MctpId) : MctpSys :=
  ⟨true, true, if eid = some id.2 then -1 else 5, takesAll, 6⟩

theorem two_endpoints_enumerated :
    ScanComplete .little false (socketsBut none) ⟨false, []⟩ [listedEndpoint 8, listedEndpoint 9] := by
  refine (scan_complete_iff .little false (socketsBut none) ⟨false, []⟩ [listedEndpoint 8, listedEndpoint 9]
    List.Pairwise.nil fun obj hobj => ?_).mpr ⟨fun h => absurd h (List.cons_ne_nil _ _), Or.inr ⟨?_, Or.inl ?_⟩⟩
  · simp only [List.mem_cons, List.not_mem_nil, or_false] at hobj
    rcases hobj with rfl | rfl
    · exact listedEndpoint_wellFormed 8
    · exact listedEndpoint_wellFormed 9
  · intro id _
    have hsd : (socketsBut none id).sd = 5 := rfl
    refine ⟨?_, ⟨rfl, rfl, hsd ▸ by decide⟩, fun h => ?_⟩
    · rintro ⟨r, hr, -⟩
      cases hr
    · cases h.2.1
  · decide

/- Endpoint 8 without a socket, or open since an earlier scan, keeps a scan that
meets it first from endpoint 9, which is opened if it is listed first. -/
theorem scan_stops_at_failure :
    (socketsBut (some 8) (1, 9)).Ready ∧
      (cxlmiScanMctp .little false (socketsBut (some 8)) ⟨false, []⟩
        (.objects [listedEndpoint 8, listedEndpoint 9])).map (fun r => (openCount r.1 (1, 9), r.2)) = some (0, -1) ∧
      (cxlmiScanMctp .little false (socketsBut (some 8)) ⟨false, []⟩
        (.objects [listedEndpoint 9, listedEndpoint 8])).map (fun r => (openCount r.1 (1, 9), r.2)) = some (1, -1) ∧
      ((cxlmiScanMctp .little false (socketsBut none) ⟨false, []⟩ (.objects [listedEndpoint 8])).bind fun r =>
        (cxlmiScanMctp .little false (socketsBut none) r.1
          (.objects [listedEndpoint 8, listedEndpoint 9])).map fun r => (openCount r.1 (1, 9), r.2)) = some (0, -1) :=
  ⟨by decide, by decide, by decide, by decide⟩

end LibCxlmi.Contract
