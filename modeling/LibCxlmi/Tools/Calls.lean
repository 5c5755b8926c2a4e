import LibCxlmi.Tools.System

/-!
# Rules for the vendor commands of a tool

What a tool promises about its vendor commands, and what it relies on in the
replies, depends on the vendor commands before and on nothing else that was
said. `Keeps` is `Meets` for such contracts.
-/

namespace LibCxlmi.Tools
open LibCxlmi.Word LibCxlmi.Dialogue

/-- Vendor commands with their replies. -/
abbrev Calls := List (Message × VendorReply)

def vendorEvent : Event SysCall SysCall.Answer → Option (Message × VendorReply)
  | ⟨.vendor m _, x⟩ => some (m, x)
  | _ => none

def vendorCalls (h : Log) : Calls := h.filterMap vendorEvent

theorem vendorCalls_append (h t : Log) : vendorCalls (h ++ t) = vendorCalls h ++ vendorCalls t :=
  List.filterMap_append

/-- `env` is what the other calls may answer. -/
structure CallContract where
  rely : Calls → Message → VendorReply → Prop
  guarantee : Calls → Message → Prop
  env : (q : SysCall) → q.Answer → Prop

/- A call that is not a vendor command does not show. -/
def callsAfter (xs : Calls) (e : Event SysCall SysCall.Answer) : Calls :=
  match vendorEvent e with
  | some c => xs ++ [c]
  | none => xs

def CallContract.onCalls (k : CallContract) : Contract SysCall SysCall.Answer Calls where
  next := callsAfter
  rely xs q :=
    match q with
    | .vendor m _ => fun x => k.rely xs m x
    | q => k.env q
  guarantee xs
    | .vendor m _ => k.guarantee xs m
    | _ => True

/-- What a split of the picked elements says about the list they were picked from. -/
theorem filterMap_split {α β : Type} (g : α → Option β) (l : List α) (pre : List β) (b : β) (rest : List β)
    (h : l.filterMap g = pre ++ b :: rest) :
    ∃ l₁ a l₂, l = l₁ ++ a :: l₂ ∧ l₁.filterMap g = pre ∧ g a = some b ∧ l₂.filterMap g = rest := by
  obtain ⟨l₁, l', rfl, rfl, htail⟩ := List.filterMap_eq_append_iff.mp h
  obtain ⟨l₂, a, l₃, rfl, hnone, ha, rfl⟩ := List.filterMap_eq_cons_iff.mp htail
  refine ⟨l₁ ++ l₂, a, l₃, (List.append_assoc _ _ _).symm, ?_, ha, rfl⟩
  rw [List.filterMap_append, List.filterMap_eq_nil_iff.mpr hnone, List.append_nil]

/- To look at every element with what stands before it, as a finite check. -/
theorem forall_split {α : Type} (l : List α) (P : List α → α → Prop)
    (h : ∀ i ∈ List.range l.length, ∀ a ∈ l[i]?, P (l.take i) a) :
    ∀ pre a rest, l = pre ++ a :: rest → P pre a := by
  rintro pre a rest rfl
  have hlt : pre.length < (pre ++ a :: rest).length := by
    rw [List.length_append, List.length_cons]
    omega
  have hget : (pre ++ a :: rest)[pre.length]? = some a := by
    rw [List.getElem?_append_right (Nat.le_refl _), Nat.sub_self]
    rfl
  have hat := h pre.length (List.mem_range.mpr hlt) a hget
  rwa [List.take_left] at hat

variable (k : CallContract) {α β σ : Type}

def Keeps (p : Tool α) (post : α → Calls → Prop) (xs : Calls) : Prop := p.Meets k.onCalls post xs

theorem keeps_ret (a : α) (post : α → Calls → Prop) (xs : Calls) (h : post a xs) :
    Keeps k (pure a : Tool α) post xs :=
  meets_ret k.onCalls a post xs h

theorem keeps_mono (p : Tool α) (post post' : α → Calls → Prop) (xs : Calls) (hp : Keeps k p post xs)
    (himp : ∀ a ys, post a ys → post' a ys) : Keeps k p post' xs :=
  meets_mono k.onCalls p post post' xs hp himp

theorem keeps_bind (p : Tool α) (f : α → Tool β) (post : β → Calls → Prop) (xs : Calls)
    (hp : Keeps k p (fun a ys => Keeps k (f a) post ys) xs) : Keeps k (p >>= f) post xs :=
  meets_bind k.onCalls p f post xs hp

theorem keeps_vendor (m : Message) (n : ℕ) (post : VendorReply → Calls → Prop) (xs : Calls)
    (hm : k.guarantee xs m) (hpost : ∀ x, k.rely xs m x → post x (xs ++ [(m, x)])) :
    Keeps k (vendorCall m n) post xs :=
  meets_ask k.onCalls (.vendor m n) post xs hm hpost

/-- The buffer of `n` bytes a vendor command leaves, as in `vendorSpecific`. -/
def VendorReply.buffer (x : VendorReply) (n : ℕ) : Bytes :=
  if x.rc = 0 then fillBuf n (x.data.take n) else zeros n

theorem VendorReply.buffer_length (x : VendorReply) (n : ℕ) : (x.buffer n).length = n := by
  unfold VendorReply.buffer
  split
  · exact fillBuf_length n _ (List.length_take_le n x.data)
  · exact zeros_length n

theorem keeps_vendorSpecific (m : Message) (n : ℕ) (post : ℤ × Bytes → Calls → Prop) (xs : Calls)
    (hm : k.guarantee xs m) (hpost : ∀ x, k.rely xs m x → post (x.rc, x.buffer n) (xs ++ [(m, x)])) :
    Keeps k (vendorSpecific m n) post xs :=
  keeps_bind k _ _ post xs (keeps_vendor k m n _ xs hm fun x hx => keeps_ret k _ post _ (hpost x hx))

theorem keeps_local (q : SysCall) (hq : ∀ m n, q ≠ .vendor m n) (post : q.Answer → Calls → Prop) (xs : Calls)
    (hpost : ∀ x, k.env q x → post x xs) : Keeps k (ask q) post xs := by
  cases q with
  | vendor m n => exact absurd rfl (hq m n)
  | _ => exact meets_ask k.onCalls _ post xs trivial hpost

theorem keeps_iterate (body : σ → Tool (σ ⊕ α)) (inv : σ → Calls → Prop) (post : α → Calls → Prop)
    (hbody : ∀ s xs, inv s xs → Keeps k (body s) (fun
      | .inl s' => inv s'
      | .inr a => post a) xs)
    (n : ℕ) (s : σ) (xs : Calls) (hs : inv s xs) :
    Keeps k (iterate body n s) (fun
      | none => fun ys => ∃ s', inv s' ys
      | some a => post a) xs := by
  refine meets_mono k.onCalls _ _ _ xs (meets_iterate k.onCalls body inv post (fun s ys hs => ?_) n s xs hs) ?_
  · refine meets_mono k.onCalls _ _ _ ys (hbody s ys hs) fun r zs hr => ?_
    cases r with
    | inl s' => exact hr
    | inr a => exact hr
  · intro r ys hr
    cases r with
    | none => exact hr
    | some a => exact hr

theorem keeps_checked (call : Tool Bool) (failed next : Tool α) (post : α → Calls → Prop) (xs : Calls)
    (hcall : Keeps k call (fun b ys => Keeps k (if b = true then next else failed) post ys) xs) :
    Keeps k (checked call failed next) post xs :=
  keeps_bind k call _ post xs hcall

/-- A call that the device does not see and that may come out either way. -/
def Quiet (call : Tool Bool) : Prop := ∀ post xs, (∀ b, post b xs) → Keeps k call post xs

theorem keeps_attempt (call : Tool Bool) (failed next : Tool α) (post : α → Calls → Prop) (xs : Calls)
    (hcall : Quiet k call) (hfailed : Keeps k failed post xs) (hnext : Keeps k next post xs) :
    Keeps k (checked call failed next) post xs := by
  refine keeps_checked k call failed next post xs (hcall _ xs fun b => ?_)
  cases b with
  | false => exact hfailed
  | true => exact hnext

theorem quiet_fseekEnd : Quiet k fseekEnd :=
  fun post xs h => keeps_local k .fseekEnd nofun post xs fun b _ => h b

theorem quiet_ftell : Quiet k ftell :=
  fun post xs h => keeps_local k .ftell nofun post xs fun b _ => h b

theorem quiet_fseekSet (off : ℕ) : Quiet k (fseekSet off) :=
  fun post xs h => keeps_local k (.fseekSet off) nofun post xs fun b _ => h b

theorem quiet_fopenWrite (path : String) : Quiet k (fopenWrite path) :=
  fun post xs h => keeps_local k (.fopenWrite path) nofun post xs fun b _ => h b

theorem quiet_fwrite (d : Bytes) : Quiet k (fwrite d) :=
  fun post xs h => keeps_local k (.fwrite d) nofun post xs fun b _ => h b

theorem quiet_calloc (n : ℕ) : Quiet k (calloc n) :=
  fun post xs h => keeps_local k (.calloc n) nofun post xs fun b _ => h b

theorem quiet_fread (f : File) (pos len : ℕ) : Quiet k (f.fread pos len) := by
  intro post xs h
  refine keeps_bind k _ _ post xs (keeps_local k (.fread pos len) nofun _ xs fun b _ => ?_)
  exact keeps_ret k _ post xs (h _)

/-! ### Runs -/

/-- The commands of a run, and its other answers, keep to what is relied on. -/
structure CallContract.Kept (t : Log) : Prop where
  calls : ∀ pre m x rest, vendorCalls t = pre ++ (m, x) :: rest → k.rely pre m x
  locals : ∀ e ∈ t, vendorEvent e = none → k.env e.asked e.answer

theorem foldl_callsAfter (xs : Calls) (t : Log) : t.foldl callsAfter xs = xs ++ vendorCalls t := by
  induction t generalizing xs with
  | nil => exact (List.append_nil xs).symm
  | cons e t ih =>
    rw [List.foldl_cons, ih, callsAfter, vendorCalls, vendorCalls, List.filterMap_cons]
    cases vendorEvent e with
    | none => rfl
    | some c => exact List.append_assoc xs [c] _

theorem onCalls_kept (xs : Calls) (t : Log)
    (hcalls : ∀ pre m x rest, vendorCalls t = pre ++ (m, x) :: rest → k.rely (xs ++ pre) m x)
    (hlocals : ∀ e ∈ t, vendorEvent e = none → k.env e.asked e.answer) : k.onCalls.Kept xs t := by
  induction t generalizing xs with
  | nil => trivial
  | cons e t ih =>
    have hlater := fun e' he' => hlocals e' (List.mem_cons_of_mem e he')
    obtain ⟨q, a⟩ := e
    cases q with
    | vendor m n =>
      refine ⟨?_, ih (xs ++ [(m, a)]) (fun pre m' x rest hsplit => ?_) hlater⟩
      · have hfirst := hcalls [] m a (vendorCalls t) rfl
        rwa [List.append_nil] at hfirst
      · have hrest := hcalls ((m, a) :: pre) m' x rest (congrArg (List.cons (m, a)) hsplit)
        rwa [List.append_cons] at hrest
    | _ => exact ⟨hlocals _ List.mem_cons_self rfl, ih xs hcalls hlater⟩

theorem onCalls_asked (xs : Calls) (t : Log) (h : k.onCalls.Asked xs t) :
    ∀ pre m x rest, vendorCalls t = pre ++ (m, x) :: rest → k.guarantee (xs ++ pre) m := by
  induction t generalizing xs with
  | nil =>
    intro pre m x rest hsplit
    exact absurd hsplit.symm (List.append_ne_nil_of_right_ne_nil pre (List.cons_ne_nil _ rest))
  | cons e t ih =>
    intro pre m x rest hsplit
    obtain ⟨q, a⟩ := e
    cases q with
    | vendor m' n =>
      cases pre with
      | nil =>
        obtain ⟨rfl, -⟩ := Prod.mk.inj (List.cons.inj hsplit).1
        rw [List.append_nil]
        exact h.1
      | cons c pre =>
        obtain ⟨rfl, htail⟩ := List.cons.inj hsplit
        rw [List.append_cons]
        exact ih _ h.2 pre m x rest htail
    | _ => exact ih xs h.2 pre m x rest hsplit

theorem keeps_sound (p : Tool α) (post : α → Calls → Prop) (t : Log) (r : α) (hp : Keeps k p post [])
    (hr : p.Runs t r) (ht : k.Kept t) :
    (∀ pre m x rest, vendorCalls t = pre ++ (m, x) :: rest → k.guarantee pre m) ∧ post r (vendorCalls t) := by
  have hkept : k.onCalls.Kept [] t := onCalls_kept k [] t ht.calls ht.locals
  obtain ⟨hasked, hpost⟩ := meets_sound k.onCalls p post [] t r hp hr hkept
  change post r (t.foldl callsAfter []) at hpost
  rw [foldl_callsAfter] at hpost
  exact ⟨onCalls_asked k [] t hasked, hpost⟩

/-- Nothing is relied on and nothing promised but the postcondition. -/
def anyContract : CallContract := ⟨fun _ _ _ => True, fun _ _ => True, fun _ _ => True⟩

theorem keeps_any (p : Tool α) (post : α → Calls → Prop) (t : Log) (r : α) (hp : Keeps anyContract p post [])
    (hr : p.Runs t r) : post r (vendorCalls t) :=
  (keeps_sound anyContract p post t r hp hr ⟨fun _ _ _ _ _ => trivial, fun _ _ _ => trivial⟩).2

end LibCxlmi.Tools
