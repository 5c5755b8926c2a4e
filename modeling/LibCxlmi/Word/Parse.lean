import LibCxlmi.Word.Field

/-!
# Parsers of packed structures

A parser reads a value off the front of a byte string and leaves the rest. The
lemmas say what a parser makes of the bytes an encoder wrote, with anything
behind them: `p b = some (v, t)` is "`p` reads `v` off `b` and leaves `t`".
-/

namespace LibCxlmi.Word

abbrev Parser := StateT Bytes Option

namespace Parser

variable {α β : Type}

def byte : Parser Byte
  | [] => none
  | x :: b => some (x, b)

def raw (n : ℕ) : Parser (Vec n) := fun b =>
  if h : n ≤ b.length then some (⟨b.take n, List.length_take_of_le h⟩, b.drop n) else none

/-- A little-endian word of `n` bytes. -/
def word (n w : ℕ) : Parser (U w) := do
  let b ← raw n
  return Fin.ofNat (2 ^ w) (leVal b.val)

/- Reserved bytes have to be zero. -/
def reserved (n : ℕ) : Parser Unit := do
  let b ← raw n
  if b.val = zeros n then return () else failure

def many (p : Parser β) : (n : ℕ) → Parser {xs : List β // xs.length = n}
  | 0 => return ⟨[], rfl⟩
  | n + 1 => do
      let x ← p
      let xs ← many p n
      return ⟨x :: xs.val, congrArg (· + 1) xs.property⟩

def rest : Parser Bytes := fun b => some (b, [])

/-- The value all of `b` is an encoding of. -/
def parseAll (p : Parser β) (b : Bytes) : Option β :=
  match p b with
  | some (v, []) => some v
  | _ => none

/-! ### What is read -/

theorem reads_bind {p : Parser α} {k : α → Parser β} {b t u : Bytes} {v : α} {w : β} (hp : p b = some (v, t))
    (hk : k v t = some (w, u)) : (p >>= k) b = some (w, u) := by
  change (p b).bind _ = _
  rw [hp]
  exact hk

theorem reads_pure (v : β) (t : Bytes) : (pure v : Parser β) t = some (v, t) := rfl

theorem reads_byte (x : Byte) (t : Bytes) : byte (x :: t) = some (x, t) := rfl

theorem reads_raw {n : ℕ} (v : Vec n) (t : Bytes) : raw n (v.val ++ t) = some (v, t) := by
  obtain ⟨b, rfl⟩ := v
  unfold raw
  have hle : b.length ≤ (b ++ t).length := List.length_append ▸ Nat.le_add_right _ _
  simp only [dif_pos hle, List.take_left, List.drop_left]

theorem reads_word (n w : ℕ) (v : U w) (t : Bytes) (h : 2 ^ w ≤ 256 ^ n) :
    word n w (leBytes n v ++ t) = some (v, t) := by
  refine reads_bind (reads_raw ⟨leBytes n v, leBytes_length n v⟩ t) ?_
  have hval : leVal (leBytes n v) = v := leVal_leBytes_of_lt n v (Nat.lt_of_lt_of_le v.isLt h)
  rw [hval, Fin.ofNat_val_eq_self]
  exact reads_pure v t

theorem reads_reserved (n : ℕ) (t : Bytes) : reserved n (zeros n ++ t) = some ((), t) := by
  refine reads_bind (reads_raw ⟨zeros n, zeros_length n⟩ t) ?_
  rw [if_pos rfl]
  exact reads_pure () t

theorem reads_many {p : Parser β} {enc : β → Bytes} (h : ∀ x t, p (enc x ++ t) = some (x, t)) (xs : List β)
    (t : Bytes) : many p xs.length (xs.flatMap enc ++ t) = some (⟨xs, rfl⟩, t) := by
  induction xs with
  | nil => exact reads_pure _ t
  | cons x xs ih =>
    rw [List.flatMap_cons, List.append_assoc]
    refine reads_bind (h x _) ?_
    refine reads_bind ih ?_
    exact reads_pure _ t

/- The elements are all that is left. -/
theorem reads_many_rest {p : Parser β} {enc : β → Bytes} (h : ∀ x t, p (enc x ++ t) = some (x, t)) (xs : List β) :
    many p xs.length (xs.flatMap enc) = some (⟨xs, rfl⟩, []) := by
  have ht := reads_many h xs []
  rwa [List.append_nil] at ht

theorem reads_bytes_rest (b : Bytes) : many byte b.length b = some (⟨b, rfl⟩, []) := by
  have hb : many byte b.length (b.flatMap fun x => [x]) = some (⟨b, rfl⟩, []) := reads_many_rest reads_byte b
  rwa [List.flatMap_singleton'] at hb

theorem reads_rest (b : Bytes) : rest b = some (b, []) := rfl

theorem parseAll_eq (p : Parser β) (b : Bytes) (v : β) (h : p b = some (v, [])) : p.parseAll b = some v := by
  unfold parseAll
  rw [h]

end Parser

end LibCxlmi.Word
