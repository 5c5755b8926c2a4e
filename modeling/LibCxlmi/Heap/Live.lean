import LibCxlmi.Heap.CcanList
import Mathlib.Algebra.Order.Group.Multiset

/-!
# Memory in use

What is allocated is a bag of addresses, each with what is there. A program uses memory,
takes some and gives it back; it goes wrong when it uses memory that is not allocated, or
is something else than it is taken for. What is in memory is told apart from this: it is
kept by the program as a value.
-/

namespace LibCxlmi.Heap

inductive Kind where
  | ctx
  | endpoint
  | mctp
  | mock
  | response
  | bytes
  deriving DecidableEq, Repr

abbrev Cell := Addr × Kind

abbrev Live := Multiset Cell

def Live.places (s : Live) : Multiset Addr := s.map Prod.fst

abbrev Act := StateT Live (Except Fault)

def wild {α : Type} : Act α := fun _ => .error .wild

def use (k : Kind) (a : Addr) : Act Unit := fun s => if (a, k) ∈ s then .ok ((), s) else .error .wild

/-- `calloc`, `malloc` and `strdup`. The allocator has chosen `a`, which is null when there
is no memory. -/
def alloc (k : Kind) (a : Addr) : Act Addr := fun s =>
  if a = 0 then .ok (0, s) else if a ∈ s.places then .error .allocator else .ok (a, {(a, k)} + s)

def free (a : Addr) : Act Unit := fun s =>
  if a = 0 then .ok ((), s)
  else if a ∈ s.places then .ok ((), s.filter fun c => c.1 ≠ a)
  else .error .wild

def lookAt : List Cell → Act Unit
  | [] => return
  | c :: cs => do
      use c.2 c.1
      lookAt cs

/- What a function of the model without memory gives, unless it goes wrong there. -/
def orWild {α : Type} : Option α → Act α
  | some x => return x
  | none => wild

/-! ### Rules -/

/-- No address is null or given out twice. -/
structure Live.Ok (s : Live) : Prop where
  nodup : s.places.Nodup
  null : 0 ∉ s.places

/-- Null, or not in use. -/
def Live.Fresh (s : Live) (a : Addr) : Prop := a = 0 ∨ a ∉ s.places

/-- Two allocations, one after the other. -/
def Live.FreshPair (s : Live) (a b : Addr) : Prop := s.Fresh a ∧ s.Fresh b ∧ (b = 0 ∨ b ≠ a)

section Rules

variable {α γ : Type} {p : Act α} {f : α → Act γ} {s s' c : Live} {x : α} {a : Addr} {k : Kind}

theorem bind_ok (h : p s = .ok (x, s')) : (p >>= f) s = f x s' := by
  show (p s >>= fun r => f r.1 r.2) = f x s'
  rw [h]
  rfl

theorem orWild_some (x : α) (s : Live) : orWild (some x) s = .ok (x, s) := rfl

theorem places_add (c s : Live) : (c + s).places = c.places + s.places := Multiset.map_add ..

theorem mem_places {a : Addr} {k : Kind} {s : Live} (h : (a, k) ∈ s) : a ∈ s.places :=
  Multiset.mem_map_of_mem Prod.fst h

theorem Live.Ok.of_add (h : Live.Ok (c + s)) : s.Ok := by
  have hnd := h.nodup
  have hnull := h.null
  rw [places_add] at hnd hnull
  exact ⟨(Multiset.nodup_add.mp hnd).2.1, fun h0 => hnull (Multiset.mem_add.mpr (Or.inr h0))⟩

theorem Live.Ok.not_mem (h : Live.Ok ({(a, k)} + s)) : a ∉ s.places := by
  have hnd := h.nodup
  rw [places_add] at hnd
  exact Multiset.disjoint_left.mp (Multiset.nodup_add.mp hnd).2.2 (Multiset.mem_singleton_self a)

theorem Live.Ok.alloc (h : s.Ok) (h0 : a ≠ 0) (ha : a ∉ s.places) : Live.Ok ({(a, k)} + s) := by
  constructor
  · rw [places_add]
    exact Multiset.nodup_cons.mpr ⟨ha, h.nodup⟩
  · rw [places_add, Multiset.mem_add, not_or]
    exact ⟨fun heq => h0 (Multiset.mem_singleton.mp heq).symm, h.null⟩

/- The second allocation. -/
theorem Live.FreshPair.second {a b : Addr} (h : s.FreshPair a b) : Live.Fresh ({(a, k)} + s) b := by
  by_cases h0 : b = 0
  · exact Or.inl h0
  · rw [Live.Fresh, places_add, Multiset.mem_add, not_or]
    exact Or.inr ⟨fun hb => h.2.2.resolve_left h0 (Multiset.mem_singleton.mp hb), h.2.1.resolve_left h0⟩

theorem use_ok (h : (a, k) ∈ s) : use k a s = .ok ((), s) := if_pos h

theorem lookAt_ok {cs : List Cell} (h : ∀ c ∈ cs, c ∈ s) : lookAt cs s = .ok ((), s) := by
  induction cs with
  | nil => rfl
  | cons c cs ih =>
    rw [lookAt, bind_ok (use_ok (h c List.mem_cons_self))]
    exact ih fun d hd => h d (List.mem_cons_of_mem c hd)

theorem alloc_null : alloc k 0 s = .ok (0, s) := rfl

theorem alloc_ok (h0 : a ≠ 0) (ha : a ∉ s.places) : alloc k a s = .ok (a, {(a, k)} + s) := by
  rw [alloc, if_neg h0, if_neg ha]

theorem free_ok (h : Live.Ok ({(a, k)} + s)) : free a ({(a, k)} + s) = .ok ((), s) := by
  have hmem : a ∈ Live.places ({(a, k)} + s) := mem_places (Multiset.mem_cons_self (a, k) s)
  have h0 : a ≠ 0 := fun h0 => h.null (h0 ▸ hmem)
  have hother : ∀ c ∈ s, c.1 ≠ a := by
    rintro c hc rfl
    exact h.not_mem (mem_places hc)
  rw [free, if_neg h0, if_pos hmem, Multiset.singleton_add, Multiset.filter_cons_of_neg s (fun hne => hne rfl),
    Multiset.filter_eq_self.mpr hother]

/-- Bytes behind a pointer that may be null. -/
def bytesAt (a : Addr) : Live := if a = 0 then 0 else {(a, .bytes)}

theorem free_bytes (h : Live.Ok (bytesAt a + s)) : free a (bytesAt a + s) = .ok ((), s) := by
  unfold bytesAt at h ⊢
  split_ifs at h ⊢ with h0
  · rw [h0, zero_add]
    rfl
  · exact free_ok h

end Rules

end LibCxlmi.Heap
