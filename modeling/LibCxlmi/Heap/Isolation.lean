import LibCxlmi.Heap.Sessions

/-!
# Endpoints do not disturb each other

What an endpoint answers depends on the calls that were made on it since it was opened,
and on nothing else: other endpoints are opened, used and closed in between, in the same
memory and on the same list, without a difference.
-/

namespace LibCxlmi.Heap
open LibCxlmi.Word LibCxlmi.Cci LibCxlmi.Transport LibCxlmi.Run

def Call.on (ep : Addr) (c : Call) : Bool := c.target == some ep

def Call.closes (ep : Addr) : Call → Bool
  | .close a => a == ep
  | _ => false

def aloneRun (o : ByteOrder) : Endpoint → List Call → Option (List Answer × Endpoint)
  | e, [] => some ([], e)
  | e, c :: cs => (aloneStep o e c).bind fun r => (aloneRun o r.2 cs).map fun q => (r.1 :: q.1, q.2)

/-- The answers to the calls on the endpoint, out of all answers. -/
def answersOn (ep : Addr) : List Call → List Answer → List Answer
  | c :: cs, a :: as => if c.on ep then a :: answersOn ep cs as else answersOn ep cs as
  | _, _ => []

def World.endpointAt (w : World) (ep : Addr) : Option Endpoint := (w.find ep).map fun t => t.reg.ep

variable {o : ByteOrder} {c : Call} {ep : Addr} {w w' : World} {t t' : Slot} {e : Endpoint} {a : Answer}
  {vs : List Slot} {cs : List Call} {as : List Answer}

theorem find_append (us f : List Slot) :
    ({ w with slots := us ++ f } : World).find ep = (us.find? fun u => u.ep == ep).or (f.find? fun u => u.ep == ep) :=
  List.find?_append

/- The endpoint before the others. -/
theorem endpointAt_self (us : List Slot) (hus : ∀ u ∈ us, u.ep ≠ t.ep) :
    ({ w with slots := us ++ t :: vs } : World).endpointAt t.ep = some t.reg.ep := by
  have hnone : (us.find? fun u => u.ep == t.ep) = none :=
    List.find?_eq_none.mpr fun u hu h => hus u hu (beq_iff_eq.mp h)
  have hsome : ((t :: vs).find? fun u => u.ep == t.ep) = some t := List.find?_cons_of_pos (beq_self_eq_true t.ep)
  rw [World.endpointAt, find_append, hnone, hsome]
  rfl

theorem endpointAt_other (us : List Slot) (h : t.ep ≠ ep) :
    ({ w with slots := us ++ t :: vs } : World).endpointAt ep =
      ({ w with slots := us ++ vs } : World).endpointAt ep := by
  have hskip : ((t :: vs).find? fun u => u.ep == ep) = vs.find? fun u => u.ep == ep :=
    List.find?_cons_of_neg fun hep => h (beq_iff_eq.mp hep)
  rw [World.endpointAt, World.endpointAt, find_append, find_append, hskip]

theorem endpointAt_used (h : w.endpointAt ep = some e) : ep ∈ w.cells.places := by
  obtain ⟨t, ht, -⟩ := Option.map_eq_some_iff.mp h
  obtain ⟨rfl, -⟩ := find_split ht
  exact mem_places (mem_cells (List.mem_of_find?_eq_some ht) (mem_self_add ..))

theorem slots_eq {us : List Slot} (hts : w.slots = us ++ t :: vs) : w = { w with slots := us ++ t :: vs } := by
  rw [← hts]

/- A call that neither is on the endpoint nor closes it. -/
theorem does_other (h : Does o c w a w') (hon : c.on ep = false) (hclose : c.closes ep = false)
    (he : w.endpointAt ep = some e) : w'.endpointAt ep = some e := by
  cases h with
  | nothing => exact he
  | @opens t hfresh =>
    have hne : t.ep ≠ ep := fun h => hfresh (h ▸ endpointAt_used he)
    exact (endpointAt_other [] hne).trans he
  | @uses us vs t t' _ hts hus hep hc =>
    have hne : t.ep ≠ ep := fun h => by
      rw [Call.on, hc, h, beq_self_eq_true] at hon
      cases hon
    rw [slots_eq hts, endpointAt_other us hne] at he
    rw [endpointAt_other us (hep ▸ hne)]
    exact he
  | @closes us vs t hts hc =>
    have hne : t.ep ≠ ep := fun h => by
      rw [hc, h, Call.closes, beq_self_eq_true] at hclose
      cases hclose
    rw [slots_eq hts, endpointAt_other us hne] at he
    exact he

/- A call on the endpoint. -/
theorem does_alone (h : Does o c w a w') (hon : c.on ep = true) (h0 : ep ≠ 0) (he : w.endpointAt ep = some e) :
    ∃ e', aloneStep o e c = some (a, e') ∧ w'.endpointAt ep = some e' := by
  have hc : c.target = some ep := beq_iff_eq.mp hon
  cases h with
  | nothing hnull => exact absurd (hnull ep hc) h0
  | opens hfresh hopen =>
    cases c <;> cases hc <;> cases hopen
  | @uses us vs t t' _ hts hus hep ht halone =>
    obtain rfl : t.ep = ep := Option.some.inj (ht.symm.trans hc)
    rw [slots_eq hts, endpointAt_self us hus] at he
    obtain rfl := Option.some.inj he
    refine ⟨t'.reg.ep, halone, ?_⟩
    rw [← hep]
    exact endpointAt_self us (hep ▸ hus)
  | closes hts hclose =>
    rw [hclose] at hc
    cases hc

/-- All calls of a run on the endpoint. -/
theorem doesAll_alone (h : DoesAll o cs w as w') (h0 : ep ≠ 0) (hstays : ∀ c ∈ cs, c.closes ep = false)
    (he : w.endpointAt ep = some e) :
    ∃ e', aloneRun o e (cs.filter (Call.on ep)) = some (answersOn ep cs as, e') ∧ w'.endpointAt ep = some e' := by
  induction h generalizing e with
  | nil => exact ⟨e, rfl, he⟩
  | @cons c cs w w₁ w₂ a as hdoes hall ih =>
    have hrest : ∀ c ∈ cs, c.closes ep = false := fun x hx => hstays x (List.mem_cons_of_mem c hx)
    cases hon : c.on ep with
    | true =>
      obtain ⟨e₁, hstep, he₁⟩ := does_alone hdoes hon h0 he
      obtain ⟨e', hrun, he'⟩ := ih hrest he₁
      refine ⟨e', ?_, he'⟩
      rw [List.filter_cons_of_pos hon, aloneRun, hstep, Option.bind_some, hrun, answersOn, if_pos hon]
      rfl
    | false =>
      obtain ⟨e', hrun, he'⟩ := ih hrest (does_other hdoes hon (hstays c List.mem_cons_self) he)
      refine ⟨e', ?_, he'⟩
      rw [List.filter_cons_of_neg (ne_true_of_eq_false hon), hrun, answersOn, if_neg (ne_true_of_eq_false hon)]

/-! ### From its opening on -/

theorem does_probeEnabled (h : Does o c w a w') : w'.probeEnabled = w.probeEnabled := by
  cases h <;> rfl

theorem does_opened (h : Does o c w a w') (h0 : ep ≠ 0) (ha : a = .pointer ep)
    (hc : c.opened o w.probeEnabled = some (ep, e)) : w'.endpointAt ep = some e := by
  cases h with
  | nothing _ hnull => exact absurd (hnull ep ha) h0
  | @opens t _ hopen =>
    obtain ⟨rfl, rfl⟩ := Prod.mk.inj (Option.some.inj (hopen.symm.trans hc))
    exact endpointAt_self [] fun u hu => by cases hu
  | uses _ _ _ _ _ hnull => exact absurd (hnull ep ha) h0
  | closes => cases ha

theorem doesAll_append {cs₁ cs₂ : List Call} (h : DoesAll o (cs₁ ++ cs₂) w as w') :
    ∃ as₁ w₁ as₂, DoesAll o cs₁ w as₁ w₁ ∧ DoesAll o cs₂ w₁ as₂ w' ∧ as = as₁ ++ as₂ ∧
      w₁.probeEnabled = w.probeEnabled := by
  induction cs₁ generalizing w as with
  | nil => exact ⟨[], w, as, .nil, h, rfl, rfl⟩
  | cons c cs₁ ih =>
    cases h with
    | @cons _ _ _ w₂ _ a as hdoes hall =>
      obtain ⟨as₁, w₁, as₂, h₁, h₂, has, hprobe⟩ := ih hall
      exact ⟨a :: as₁, w₁, as₂, .cons hdoes h₁, h₂, congrArg (a :: ·) has, hprobe.trans (does_probeEnabled hdoes)⟩

theorem answersOn_append (cs : List Call) (as bs : List Answer) (h : as.length = cs.length) :
    answersOn ep cs (as ++ bs) = answersOn ep cs as := by
  induction cs generalizing as with
  | nil => rfl
  | cons c cs ih =>
    cases as with
    | nil => cases h
    | cons a as => rw [List.cons_append, answersOn, answersOn, ih as (Nat.succ.inj h)]

/-- In a session that keeps to the rules, `c` opens the endpoint `ep`, which `during` does not
close. What the calls of `during` on it return is what they would return were there no other
calls, whatever endpoints there are beside it and whatever is done with them before, after and
in between. -/
theorem endpoint_alone (o : ByteOrder) (place ep : Addr) (probeEnabled : Bool) (before during after : List Call)
    (c : Call) (hplace : place ≠ 0)
    (hproper : ProperRun o (before ++ c :: (during ++ after)) ⟨place, probeEnabled, []⟩) (h0 : ep ≠ 0)
    (hc : c.opened o probeEnabled = some (ep, e))
    (h : session o place probeEnabled (before ++ c :: (during ++ after)) 0 = .ok (some as, 0))
    (hopen : as[before.length]? = some (.pointer ep)) (hstays : ∀ c ∈ during, c.closes ep = false) :
    ∃ e', aloneRun o e (during.filter (Call.on ep)) =
      some (answersOn ep during (as.drop (before.length + 1)), e') := by
  obtain ⟨as', w, hrun, hdoes⟩ := session_does hproper hplace
  obtain rfl : as' = as := Option.some.inj (Prod.mk.inj (Except.ok.inj (hrun.symm.trans h))).1
  obtain ⟨as₁, w₁, as₂, h₁, h₂, rfl, hprobe⟩ := doesAll_append hdoes
  cases h₂ with
  | @cons _ _ _ w₂ _ a as hstep hall =>
    have hlen : before.length = as₁.length := h₁.length.symm
    have ha : a = .pointer ep := by
      rw [hlen, List.getElem?_append_right (Nat.le_refl _), Nat.sub_self] at hopen
      exact Option.some.inj hopen
    have hdrop : (as₁ ++ a :: as).drop (before.length + 1) = as := by
      rw [hlen, List.append_cons, List.drop_left' (by rw [List.length_append]; rfl)]
    have he : w₂.endpointAt ep = some e := does_opened hstep h0 ha (hprobe.symm ▸ hc)
    obtain ⟨bs, w₃, rest, hduring, -, rfl, -⟩ := doesAll_append hall
    obtain ⟨e', halone, -⟩ := doesAll_alone hduring h0 hstays he
    refine ⟨e', ?_⟩
    rw [hdrop, answersOn_append during bs rest hduring.length, halone]

/-- What is done with a mock and around it, after a device was opened. -/
def mockAmongOthers : List Call :=
  [.setResponse 4 0 1 0 (some [7]) ⟨6, 7⟩, .openMock ⟨8, 9⟩, .setResponse 8 0 1 5 none ⟨10, 0⟩,
    .command 8 identifySend 0, .close 2, .command 4 identifySend 0, .clearResponses 8]

theorem mockAmongOthers_alone : ∃ as,
    session .little 1 true ([.openDev [0x6d] ⟨2, 9, 3⟩] ++ .openMock ⟨4, 5⟩ :: (mockAmongOthers ++ [.close 4])) 0 =
      .ok (some as, 0) ∧
    ∃ e', aloneRun .little mockOpened [.setResponse 4 0 1 0 (some [7]) ⟨6, 7⟩, .command 4 identifySend 0] =
      some (answersOn 4 mockAmongOthers (as.drop 2), e') :=
  ⟨_, rfl, endpoint_alone .little 1 4 true [.openDev [0x6d] ⟨2, 9, 3⟩] mockAmongOthers [.close 4] (.openMock ⟨4, 5⟩)
    (by decide) (by decide +kernel) (by decide) rfl rfl rfl (by decide)⟩

end LibCxlmi.Heap
