import LibCxlmi.Text.Strtoul

/-!
# Integer literals

What `strtoull` takes with base 0, behind white space and a sign, is the longest integer
literal of C that the text starts with.
-/

namespace LibCxlmi.Text

theorem digitVal_small (c : Char) (h : c.toNat < 48) : digitVal c = 36 := by
  have hlow : ∀ b : Char, 48 ≤ b.toNat → ¬ b ≤ c := by
    intro b hb hle
    have hval : b.toNat ≤ c.toNat := hle
    omega
  simp only [digitVal, hlow '0' (by decide), hlow 'a' (by decide), hlow 'A' (by decide), false_and, if_false]

theorem digitVal_space (c : Char) (h : isSpace c = true) : digitVal c = 36 := by
  refine digitVal_small c ?_
  simp only [isSpace, Bool.or_eq_true, Bool.and_eq_true, decide_eq_true_eq] at h
  rcases h with rfl | ⟨-, h⟩
  · decide
  · omega

theorem digitVal_sign (c : Char) (h : c = '+' ∨ c = '-') : digitVal c = 36 := by
  rcases h with rfl | rfl <;> decide

theorem not_isSpace_of_digit (c : Char) (h : digitVal c < 36) : isSpace c = false := by
  refine Bool.eq_false_iff.mpr ?_
  intro hsp
  rw [digitVal_space c hsp] at h
  omega

theorem not_sign_of_digit (c : Char) (h : digitVal c < 36) : ¬ (c = '+' ∨ c = '-') := by
  intro hsign
  rw [digitVal_sign c hsign] at h
  omega

/-! ### Digits -/

/- Two at a time. -/
theorem exists_pair {α : Type} (n : ℕ) (l : List α) (h : l.length = 2 * (n + 1)) :
    ∃ a b s, l = a :: b :: s ∧ s.length = 2 * n := by
  cases l with
  | nil => simp at h
  | cons a l =>
    cases l with
    | nil => simp only [List.length_singleton] at h; omega
    | cons b s =>
      simp only [List.length_cons] at h
      exact ⟨a, b, s, rfl, by omega⟩

def digitsVal (base acc : ℕ) (ds : List Char) : ℕ := ds.foldl (fun a c => a * base + digitVal c) acc

/-- Nothing that could go on a number. -/
def Stops (rest : List Char) : Prop := ∀ c ∈ rest.head?, digitVal c = 36

theorem stops_nil : Stops [] := by
  intro c hc
  cases hc

theorem stops_cons (c : Char) (rest : List Char) (h : digitVal c = 36) : Stops (c :: rest) := by
  intro d hd
  obtain rfl := Option.some.inj hd
  exact h

theorem readDigits_append (base acc : ℕ) (hbase : base ≤ 36) (ds rest : List Char) (hds : ∀ c ∈ ds, digitVal c < base)
    (hrest : Stops rest) : readDigits base acc (ds ++ rest) = (digitsVal base acc ds, rest) := by
  induction ds generalizing acc with
  | nil =>
    cases rest with
    | nil => rfl
    | cons c rest =>
      have hc : ¬ digitVal c < base := by
        rw [hrest c rfl]
        omega
      show readDigits base acc (c :: rest) = (acc, c :: rest)
      rw [readDigits, if_neg hc]
  | cons d ds ih =>
    have hd := hds d List.mem_cons_self
    rw [List.cons_append, readDigits, if_pos hd, ih _ fun c hc => hds c (List.mem_cons_of_mem d hc)]
    rfl

theorem readDigits_split (base acc : ℕ) (cs : List Char) : ∃ ds, cs = ds ++ (readDigits base acc cs).2 ∧
    (∀ c ∈ ds, digitVal c < base) ∧ (readDigits base acc cs).1 = digitsVal base acc ds := by
  induction cs generalizing acc with
  | nil => exact ⟨[], rfl, by simp, rfl⟩
  | cons c cs ih =>
    rw [readDigits]
    by_cases hc : digitVal c < base
    · rw [if_pos hc]
      obtain ⟨ds, hcs, hds, hval⟩ := ih (acc * base + digitVal c)
      refine ⟨c :: ds, ?_, List.forall_mem_cons.mpr ⟨hc, hds⟩, hval⟩
      rw [List.cons_append, ← hcs]
    · rw [if_neg hc]
      exact ⟨[], rfl, by simp, rfl⟩

theorem readDigits_cons_split (base : ℕ) (c : Char) (s : List Char) (hc : digitVal c < base) :
    ∃ ds, s = ds ++ (readDigits base 0 (c :: s)).2 ∧ (∀ d ∈ c :: ds, digitVal d < base) ∧
      (readDigits base 0 (c :: s)).1 = digitsVal base 0 (c :: ds) := by
  rw [readDigits, if_pos hc]
  obtain ⟨ds, hs, hds, hval⟩ := readDigits_split base (0 * base + digitVal c) s
  exact ⟨ds, hs, List.forall_mem_cons.mpr ⟨hc, hds⟩, hval⟩

/-! ### Literals -/

/-- A decimal, octal or hexadecimal literal and its value. -/
inductive IntLiteral : List Char → ℕ → Prop where
  | decimal (c : Char) (s : List Char) : c ≠ '0' → (∀ d ∈ c :: s, digitVal d < 10) →
      IntLiteral (c :: s) (digitsVal 10 0 (c :: s))
  | octal (s : List Char) : (∀ d ∈ s, digitVal d < 8) → IntLiteral ('0' :: s) (digitsVal 8 0 s)
  | hexadecimal (x d : Char) (s : List Char) : (x = 'x' ∨ x = 'X') → (∀ e ∈ d :: s, digitVal e < 16) →
      IntLiteral ('0' :: x :: d :: s) (digitsVal 16 0 (d :: s))

theorem IntLiteral.head {ds : List Char} {n : ℕ} (h : IntLiteral ds n) : ∃ c s, ds = c :: s ∧ digitVal c < 10 := by
  cases h with
  | decimal c s hc hds => exact ⟨c, s, rfl, hds c List.mem_cons_self⟩
  | octal s hds => exact ⟨'0', s, rfl, by decide⟩
  | hexadecimal x d s hx hds => exact ⟨'0', x :: d :: s, rfl, by decide⟩

theorem readMagnitude_decimal (c : Char) (s : List Char) (hc : c ≠ '0') (hd : digitVal c < 10) :
    readMagnitude (c :: s) = some (readDigits 10 0 (c :: s)) := by
  unfold readMagnitude
  split <;> simp_all

theorem readMagnitude_none (c : Char) (s : List Char) (hc : c ≠ '0') (hd : 10 ≤ digitVal c) :
    readMagnitude (c :: s) = none := by
  have hnot : ¬ digitVal c < 10 := Nat.not_lt.mpr hd
  unfold readMagnitude
  split <;> simp_all

theorem readMagnitude_hexadecimal (x d : Char) (s : List Char) (hx : x = 'x' ∨ x = 'X') (hd : digitVal d < 16) :
    readMagnitude ('0' :: x :: d :: s) = some (readDigits 16 0 (d :: s)) := if_pos ⟨hx, hd⟩

theorem readMagnitude_octal (s : List Char) (h : ¬ ∃ x d t, s = x :: d :: t ∧ (x = 'x' ∨ x = 'X') ∧ digitVal d < 16) :
    readMagnitude ('0' :: s) = some (readDigits 8 0 ('0' :: s)) := by
  match s with
  | [] => rfl
  | [x] => rfl
  | x :: d :: t => exact if_neg fun hx => h ⟨x, d, t, rfl, hx⟩

/-- A literal with nothing behind it that goes on is taken as a whole. -/
theorem readMagnitude_literal (ds rest : List Char) (n : ℕ) (h : IntLiteral ds n) (hrest : Stops rest) :
    readMagnitude (ds ++ rest) = some (n, rest) := by
  cases h with
  | decimal c s hc hds =>
    rw [List.cons_append, readMagnitude_decimal c _ hc (hds c List.mem_cons_self), ← List.cons_append,
      readDigits_append 10 0 (by decide) (c :: s) rest hds hrest]
  | octal s hds =>
    have hx : ¬ ∃ x d t, s ++ rest = x :: d :: t ∧ (x = 'x' ∨ x = 'X') ∧ digitVal d < 16 := by
      rintro ⟨x, d, t, hst, hx, -⟩
      have hval : digitVal x = 33 := by rcases hx with rfl | rfl <;> decide
      cases s with
      | nil =>
        have hstop : digitVal x = 36 := hrest x (by rw [show rest = x :: d :: t from hst]; rfl)
        omega
      | cons y s =>
        obtain ⟨rfl, -⟩ := List.cons.inj hst
        have hy := hds y List.mem_cons_self
        omega
    have hzero : ∀ c ∈ '0' :: s, digitVal c < 8 := List.forall_mem_cons.mpr ⟨by decide, hds⟩
    rw [List.cons_append, readMagnitude_octal _ hx, ← List.cons_append,
      readDigits_append 8 0 (by decide) ('0' :: s) rest hzero hrest]
    rfl
  | hexadecimal x d s hx hds =>
    rw [List.cons_append, List.cons_append, List.cons_append,
      readMagnitude_hexadecimal x d _ hx (hds d List.mem_cons_self), ← List.cons_append,
      readDigits_append 16 0 (by decide) (d :: s) rest hds hrest]

/-- What is taken is a literal. -/
theorem literal_of_readMagnitude (cs rest : List Char) (n : ℕ) (h : readMagnitude cs = some (n, rest)) :
    ∃ ds, cs = ds ++ rest ∧ IntLiteral ds n := by
  cases cs with
  | nil => cases h
  | cons c s =>
    by_cases hc : c = '0'
    · subst hc
      by_cases hx : ∃ x d t, s = x :: d :: t ∧ (x = 'x' ∨ x = 'X') ∧ digitVal d < 16
      · obtain ⟨x, d, t, rfl, hx, hd⟩ := hx
        rw [readMagnitude_hexadecimal x d t hx hd] at h
        obtain ⟨ds, ht, hds, hval⟩ := readDigits_cons_split 16 d t hd
        rw [Option.some.inj h] at ht hval
        refine ⟨'0' :: x :: d :: ds, by rw [ht]; rfl, ?_⟩
        rw [show n = digitsVal 16 0 (d :: ds) from hval]
        exact .hexadecimal x d ds hx hds
      · rw [readMagnitude_octal s hx] at h
        obtain ⟨ds, hs, hds, hval⟩ := readDigits_cons_split 8 '0' s (by decide)
        rw [Option.some.inj h] at hs hval
        refine ⟨'0' :: ds, by rw [hs]; rfl, ?_⟩
        rw [show n = digitsVal 8 0 ds from hval]
        exact .octal ds fun d hd => hds d (List.mem_cons_of_mem _ hd)
    · have hd : digitVal c < 10 := by
        rcases Nat.lt_or_ge (digitVal c) 10 with hd | hd
        · exact hd
        · rw [readMagnitude_none c s hc hd] at h
          cases h
      rw [readMagnitude_decimal c s hc hd] at h
      obtain ⟨ds, hs, hds, hval⟩ := readDigits_cons_split 10 c s hd
      rw [Option.some.inj h] at hs hval
      refine ⟨c :: ds, by rw [hs]; rfl, ?_⟩
      rw [show n = digitsVal 10 0 (c :: ds) from hval]
      exact .decimal c ds hc hds

/-! ### Numbers without white space and sign -/

/-- The text starts with a digit. -/
def StartsDigit (cs : List Char) : Prop := ∃ c s, cs = c :: s ∧ digitVal c < 10

theorem IntLiteral.startsDigit {ds : List Char} {n : ℕ} (h : IntLiteral ds n) (rest : List Char) :
    StartsDigit (ds ++ rest) := by
  obtain ⟨c, s, rfl, hc⟩ := h.head
  exact ⟨c, s ++ rest, rfl, hc⟩

theorem numeral_of_startsDigit (s : String) (h : StartsDigit s.toList) :
    numeral s = (readMagnitude s.toList).map fun m => (false, m) := by
  obtain ⟨c, t, hs, hc⟩ := h
  have hsp : ¬ isSpace c = true := by
    rw [not_isSpace_of_digit c (by omega)]
    decide
  have hsign := not_sign_of_digit c (by omega)
  have hsplit : splitSign (c :: t) = (false, c :: t) := by
    unfold splitSign
    split <;> simp_all
  simp only [numeral, hs, List.dropWhile_cons_of_neg hsp, hsplit]

theorem numeral_literal (s : String) (ds rest : List Char) (n : ℕ) (hs : s.toList = ds ++ rest) (h : IntLiteral ds n)
    (hrest : Stops rest) : numeral s = some (false, n, rest) := by
  obtain ⟨c, t, rfl, hc⟩ := h.head
  rw [numeral_of_startsDigit s ⟨c, t ++ rest, hs, hc⟩, hs, readMagnitude_literal _ rest n h hrest]
  rfl

theorem literal_of_numeral (s : String) (neg : Bool) (n : ℕ) (rest : List Char) (hd : StartsDigit s.toList)
    (h : numeral s = some (neg, n, rest)) : neg = false ∧ ∃ ds, s.toList = ds ++ rest ∧ IntLiteral ds n := by
  rw [numeral_of_startsDigit s hd] at h
  obtain ⟨m, hm, hval⟩ := Option.map_eq_some_iff.mp h
  obtain ⟨hneg, rfl⟩ := Prod.mk.inj hval
  exact ⟨hneg.symm, literal_of_readMagnitude s.toList rest n hm⟩

theorem signedValue_plain (n : ℕ) (h : n < 2 ^ 64) : signedValue false n = n := by
  unfold signedValue ulongMax
  rw [if_neg (by omega), if_neg Bool.false_ne_true]

end LibCxlmi.Text
