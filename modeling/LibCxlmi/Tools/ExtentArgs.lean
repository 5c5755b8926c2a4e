import LibCxlmi.Text.Literals
import LibCxlmi.Word.Memory

/-!
# Extents as arguments (cmd_sdb_tunnel.c:5925-6049, cmd_dc.c:37-66)

An extent is written `dpa:len[:tag[:seq]]`. The fields are cut out of the text one after
the other; each number ends where `strtoull` stops, and what stands there is looked at
in a different way each time.
-/

namespace LibCxlmi.Tools
open LibCxlmi.Word LibCxlmi.Text

/-! ### The parsers -/

/-- A conversion and where it stopped, unless that is where it began. -/
def convert (p : List Char) : Option (ℕ × List Char) :=
  let r := strtoulEnd (String.ofList p)
  if r.2 = p then none else some r

/- Two digits for each byte, the higher one first. -/
def bytesOfHex : List Char → Bytes
  | a :: b :: s => Fin.ofNat 256 (16 * digitVal a + digitVal b) :: bytesOfHex s
  | _ => []

def skipHexPrefix : List Char → List Char
  | '0' :: 'x' :: s => s
  | '0' :: 'X' :: s => s
  | s => s

/-- Shorter tags are filled up with zeros on the left. -/
def dcdParseHexTag (arg : List Char) : Option Bytes :=
  let p := skipHexPrefix arg
  if p.length = 0 ∨ 32 < p.length then none
  else if p.any (fun c => decide (16 ≤ digitVal c)) = true then none
  else some (bytesOfHex (List.replicate (32 - p.length) '0' ++ p))

structure ExtentArg where
  startDpa : ℕ
  len : ℕ
  tag : Bytes
  sharedSeq : ℕ
  deriving DecidableEq, Repr

/- What follows the tag; `sv` is cut to 16 bits. -/
def dcdParseSharedSeq (dpa len : ℕ) (tag : Bytes) : List Char → Option ExtentArg
  | ':' :: p => (convert p).map fun sv => ⟨dpa, len, tag, sv.1 % 2 ^ 16⟩
  | _ => some ⟨dpa, len, tag, 0⟩

/- What follows the length; anything but a colon is not looked at. -/
def dcdParseExtentTail (dpa len : ℕ) : List Char → Option ExtentArg
  | ':' :: tagStart =>
      let ts := tagStart.takeWhile (· ≠ ':')
      if ts.length = 0 ∨ 35 ≤ ts.length then none
      else (dcdParseHexTag ts).bind fun tag => dcdParseSharedSeq dpa len tag (tagStart.dropWhile (· ≠ ':'))
  | _ => some ⟨dpa, len, zeros 16, 0⟩

def dcdParseExtentArg (arg : String) : Option ExtentArg :=
  (convert arg.toList).bind fun dpa =>
    match dpa.2 with
    | ':' :: p => (convert p).bind fun len => dcdParseExtentTail dpa.1 len.1 len.2
    | _ => none

def dcParseExtent (arg : String) : Option (ℕ × ℕ) :=
  (convert arg.toList).bind fun dpa =>
    match dpa.2 with
    | ':' :: p => (convert p).bind fun len => if len.2 = [] then some (dpa.1, len.1) else none
    | _ => none

/-! ### Tags as they are written -/

/-- An optional prefix and 1 to 32 digits; the tag is their value in 16 bytes, the lowest
one last. -/
def TagText (t : List Char) (tag : Bytes) : Prop :=
  ∃ hex, (t = hex ∨ t = '0' :: 'x' :: hex ∨ t = '0' :: 'X' :: hex) ∧ 1 ≤ hex.length ∧ hex.length ≤ 32 ∧
    (∀ c ∈ hex, digitVal c < 16) ∧ tag = (leBytes 16 (digitsVal 16 0 hex)).reverse

/-! ### Conversions -/

theorem readMagnitude_shorter (cs rest : List Char) (n : ℕ) (h : readMagnitude cs = some (n, rest)) :
    rest.length < cs.length := by
  obtain ⟨ds, rfl, hlit⟩ := literal_of_readMagnitude cs rest n h
  obtain ⟨c, s, rfl, -⟩ := hlit.head
  rw [List.length_append, List.length_cons]
  omega

theorem splitSign_length_le (cs : List Char) : (splitSign cs).2.length ≤ cs.length := by
  unfold splitSign
  split <;> simp

theorem numeral_shorter (p rest : List Char) (neg : Bool) (n : ℕ)
    (h : numeral (String.ofList p) = some (neg, n, rest)) : rest.length < p.length := by
  obtain ⟨m, hm, hval⟩ := Option.map_eq_some_iff.mp h
  obtain ⟨-, rfl⟩ := Prod.mk.inj hval
  have hshort := readMagnitude_shorter _ rest n hm
  have hsign := splitSign_length_le (p.dropWhile isSpace)
  have hspace : (p.dropWhile isSpace).length ≤ p.length := (List.dropWhile_suffix isSpace).length_le
  rw [String.toList_ofList] at hshort
  omega

theorem convert_eq_some_iff (p rest : List Char) (v : ℕ) : convert p = some (v, rest) ↔
    ∃ neg n, numeral (String.ofList p) = some (neg, n, rest) ∧ v = signedValue neg n := by
  unfold convert
  rw [strtoulEnd_eq]
  cases hnum : numeral (String.ofList p) with
  | none => simp [String.toList_ofList]
  | some m =>
    obtain ⟨neg, n, r⟩ := m
    have hshort := numeral_shorter p r neg n hnum
    have hne : ¬ r = p := by
      rintro rfl
      omega
    simp only [if_neg hne, Option.some.injEq, Prod.mk.injEq]
    constructor
    · rintro ⟨rfl, rfl⟩
      exact ⟨neg, n, ⟨rfl, rfl, rfl⟩, rfl⟩
    · rintro ⟨neg', n', ⟨rfl, rfl, rfl⟩, rfl⟩
      exact ⟨rfl, rfl⟩

/-! ### Tags -/

theorem bytesOfHex_length (n : ℕ) (hex : List Char) (h : hex.length = 2 * n) : (bytesOfHex hex).length = n := by
  induction n generalizing hex with
  | zero =>
    obtain rfl := List.length_eq_zero_iff.mp h
    rfl
  | succ n ih =>
    obtain ⟨a, b, s, rfl, hs⟩ := exists_pair n hex h
    show (bytesOfHex s).length + 1 = n + 1
    rw [ih s hs]

theorem leVal_reverse_cons (b : Byte) (bs : Bytes) :
    leVal (b :: bs).reverse = leVal bs.reverse + 256 ^ bs.length * b.val := by
  rw [List.reverse_cons, leVal_append, List.length_reverse, leVal_cons, leVal_nil, Nat.mul_zero, Nat.add_zero]

/-- Reading digits on is reading the bytes they make up. -/
theorem digitsVal_bytesOfHex (n acc : ℕ) (hex : List Char) (h : hex.length = 2 * n) (hd : ∀ c ∈ hex, digitVal c < 16) :
    digitsVal 16 acc hex = acc * 256 ^ n + leVal (bytesOfHex hex).reverse := by
  induction n generalizing acc hex with
  | zero =>
    obtain rfl := List.length_eq_zero_iff.mp h
    simp [digitsVal, bytesOfHex]
  | succ n ih =>
    obtain ⟨a, b, s, rfl, hs⟩ := exists_pair n hex h
    have ha := hd a (by simp)
    have hb := hd b (by simp)
    have hbyte : (Fin.ofNat 256 (16 * digitVal a + digitVal b) : Byte).val = 16 * digitVal a + digitVal b :=
      Nat.mod_eq_of_lt (by omega)
    have hrest := ih ((acc * 16 + digitVal a) * 16 + digitVal b) s hs fun c hc => hd c (by simp [hc])
    show digitsVal 16 ((acc * 16 + digitVal a) * 16 + digitVal b) s = _
    rw [hrest, bytesOfHex, leVal_reverse_cons, bytesOfHex_length n s hs, hbyte, pow_succ]
    ring

theorem digitsVal_padded (k : ℕ) (hex : List Char) :
    digitsVal 16 0 (List.replicate k '0' ++ hex) = digitsVal 16 0 hex := by
  induction k with
  | zero => rfl
  | succ k ih =>
    rw [List.replicate_succ, List.cons_append]
    exact ih

/-- Right-aligned digits are the value in 16 bytes. -/
theorem bytesOfHex_padded (hex : List Char) (h : hex.length ≤ 32) (hd : ∀ c ∈ hex, digitVal c < 16) :
    bytesOfHex (List.replicate (32 - hex.length) '0' ++ hex) = (leBytes 16 (digitsVal 16 0 hex)).reverse := by
  have hlen : (List.replicate (32 - hex.length) '0' ++ hex).length = 2 * 16 := by
    rw [List.length_append, List.length_replicate]
    omega
  have hdigits : ∀ c ∈ List.replicate (32 - hex.length) '0' ++ hex, digitVal c < 16 := by
    intro c hc
    rcases List.mem_append.mp hc with hc | hc
    · rw [List.eq_of_mem_replicate hc]
      decide
    · exact hd c hc
  have hval := digitsVal_bytesOfHex 16 0 _ hlen hdigits
  rw [digitsVal_padded, Nat.zero_mul, Nat.zero_add] at hval
  have hbytes := leBytes_leVal (bytesOfHex (List.replicate (32 - hex.length) '0' ++ hex)).reverse
  rw [List.length_reverse, bytesOfHex_length 16 _ hlen, ← hval] at hbytes
  rw [hbytes, List.reverse_reverse]

theorem skipHexPrefix_digits (hex : List Char) (hd : ∀ c ∈ hex, digitVal c < 16) : skipHexPrefix hex = hex := by
  have hx : ¬ digitVal 'x' < 16 := by decide
  have hX : ¬ digitVal 'X' < 16 := by decide
  unfold skipHexPrefix
  split
  · exact absurd (hd 'x' (by simp)) hx
  · exact absurd (hd 'X' (by simp)) hX
  · rfl

theorem skipHexPrefix_cases (t : List Char) :
    t = skipHexPrefix t ∨ t = '0' :: 'x' :: skipHexPrefix t ∨ t = '0' :: 'X' :: skipHexPrefix t := by
  unfold skipHexPrefix
  split <;> simp

theorem dcdParseHexTag_iff (t : List Char) (tag : Bytes) : dcdParseHexTag t = some tag ↔ TagText t tag := by
  unfold dcdParseHexTag
  constructor
  · intro h
    dsimp only at h
    split_ifs at h with hlen hbad
    push Not at hlen
    have hd : ∀ c ∈ skipHexPrefix t, digitVal c < 16 := by
      intro c hc
      by_contra hnot
      exact hbad (List.any_eq_true.mpr ⟨c, hc, decide_eq_true (Nat.le_of_not_lt hnot)⟩)
    obtain rfl := Option.some.inj h
    exact ⟨skipHexPrefix t, skipHexPrefix_cases t, by omega, hlen.2, hd, bytesOfHex_padded _ hlen.2 hd⟩
  · rintro ⟨hex, ht, hpos, hle, hd, rfl⟩
    have hskip : skipHexPrefix t = hex := by
      rcases ht with rfl | rfl | rfl
      · exact skipHexPrefix_digits t hd
      · rfl
      · rfl
    have hlen : ¬ (hex.length = 0 ∨ 32 < hex.length) := by omega
    have hbad : ¬ hex.any (fun c => decide (16 ≤ digitVal c)) = true := by
      intro hany
      obtain ⟨c, hc, hnot⟩ := List.any_eq_true.mp hany
      exact absurd (hd c hc) (Nat.not_lt.mpr (of_decide_eq_true hnot))
    rw [hskip, if_neg hlen, if_neg hbad, bytesOfHex_padded hex hle hd]

theorem TagText.colon_notMem {t : List Char} {tag : Bytes} (h : TagText t tag) : ':' ∉ t := by
  obtain ⟨hex, ht, -, -, hd, -⟩ := h
  have hhex : ':' ∉ hex := fun hmem => absurd (hd ':' hmem) (by decide)
  rcases ht with rfl | rfl | rfl
  · exact hhex
  · simpa using hhex
  · simpa using hhex

theorem TagText.length_lt {t : List Char} {tag : Bytes} (h : TagText t tag) : ¬ (t.length = 0 ∨ 35 ≤ t.length) := by
  obtain ⟨hex, ht, hpos, hle, -⟩ := h
  rcases ht with rfl | rfl | rfl
  · omega
  · simp only [List.length_cons]
    omega
  · simp only [List.length_cons]
    omega

/-! ### What the parser takes -/

/-- What stands behind the length: something else, a tag, or a tag and a number. -/
inductive ExtentTail where
  | other (rest : List Char)
  | tagged (t : List Char)
  | sequenced (t c : List Char)

def ExtentTail.text : ExtentTail → List Char
  | .other rest => rest
  | .tagged t => ':' :: t
  | .sequenced t c => ':' :: (t ++ ':' :: c)

/-- The tag and the number it is taken for. -/
def ExtentTail.Gives : ExtentTail → Bytes → ℕ → Prop
  | .other rest, tag, seq => rest.head? ≠ some ':' ∧ tag = zeros 16 ∧ seq = 0
  | .tagged t, tag, seq => TagText t tag ∧ seq = 0
  | .sequenced t c, tag, seq => TagText t tag ∧
      ∃ neg n rest, numeral (String.ofList c) = some (neg, n, rest) ∧ seq = signedValue neg n % 2 ^ 16

theorem takeWhile_field (t rest : List Char) (h : ':' ∉ t) :
    (t ++ ':' :: rest).takeWhile (· ≠ ':') = t ∧ (t ++ ':' :: rest).dropWhile (· ≠ ':') = ':' :: rest := by
  have hall : ∀ c ∈ t, decide (c ≠ ':') = true := fun c hc => decide_eq_true fun heq => h (heq ▸ hc)
  rw [List.takeWhile_append_of_pos hall, List.dropWhile_append_of_pos hall]
  simp

theorem takeWhile_last (t : List Char) (h : ':' ∉ t) :
    t.takeWhile (· ≠ ':') = t ∧ t.dropWhile (· ≠ ':') = [] := by
  have hall : ∀ c ∈ t, decide (c ≠ ':') = true := fun c hc => decide_eq_true fun heq => h (heq ▸ hc)
  have htake := @List.takeWhile_append_of_pos _ _ t [] hall
  have hdrop := @List.dropWhile_append_of_pos _ _ t [] hall
  rw [List.append_nil] at htake hdrop
  exact ⟨by simpa using htake, hdrop⟩

theorem dropWhile_colon (l p : List Char) (d : Char) (h : l.dropWhile (· ≠ ':') = d :: p) : d = ':' := by
  have hhead := List.head?_dropWhile_not (fun c : Char => decide (c ≠ ':')) l
  rw [h] at hhead
  simpa using hhead

theorem dcdParseSharedSeq_colon (dpa len : ℕ) (tag : Bytes) (c : List Char) (v : ExtentArg) :
    dcdParseSharedSeq dpa len tag (':' :: c) = some v ↔
      ∃ neg n rest, numeral (String.ofList c) = some (neg, n, rest) ∧
        v = ⟨dpa, len, tag, signedValue neg n % 2 ^ 16⟩ := by
  rw [dcdParseSharedSeq, Option.map_eq_some_iff]
  constructor
  · rintro ⟨⟨sv, rest⟩, hconv, rfl⟩
    obtain ⟨neg, n, hnum, rfl⟩ := (convert_eq_some_iff c rest sv).mp hconv
    exact ⟨neg, n, rest, hnum, rfl⟩
  · rintro ⟨neg, n, rest, hnum, rfl⟩
    exact ⟨(signedValue neg n, rest), (convert_eq_some_iff c rest _).mpr ⟨neg, n, hnum, rfl⟩, rfl⟩

theorem dcdParseExtentTail_other (dpa len : ℕ) (rest : List Char) (h : rest.head? ≠ some ':') :
    dcdParseExtentTail dpa len rest = some ⟨dpa, len, zeros 16, 0⟩ := by
  unfold dcdParseExtentTail
  split
  · exact absurd rfl h
  · rfl

theorem dcdParseExtentTail_colon (dpa len : ℕ) (s : List Char) (v : ExtentArg) :
    dcdParseExtentTail dpa len (':' :: s) = some v ↔ ∃ tag, TagText (s.takeWhile (· ≠ ':')) tag ∧
      dcdParseSharedSeq dpa len tag (s.dropWhile (· ≠ ':')) = some v := by
  rw [dcdParseExtentTail]
  constructor
  · intro h
    split_ifs at h
    obtain ⟨tag, htag, hseq⟩ := Option.bind_eq_some_iff.mp h
    exact ⟨tag, (dcdParseHexTag_iff _ tag).mp htag, hseq⟩
  · rintro ⟨tag, htag, hseq⟩
    rw [if_neg htag.length_lt, (dcdParseHexTag_iff _ tag).mpr htag]
    exact hseq

theorem dcdParseExtentTail_iff (dpa len : ℕ) (rest : List Char) (v : ExtentArg) :
    dcdParseExtentTail dpa len rest = some v ↔
      ∃ tail tag seq, ExtentTail.text tail = rest ∧ tail.Gives tag seq ∧ v = ⟨dpa, len, tag, seq⟩ := by
  constructor
  · intro h
    by_cases hcolon : rest.head? = some ':'
    · obtain ⟨s, rfl⟩ : ∃ s, rest = ':' :: s := List.head?_eq_some_iff.mp hcolon
      obtain ⟨tag, htag, hseq⟩ := (dcdParseExtentTail_colon dpa len s v).mp h
      have hs := List.takeWhile_append_dropWhile (p := fun c : Char => decide (c ≠ ':')) (l := s)
      cases hdrop : s.dropWhile (· ≠ ':') with
      | nil =>
        rw [hdrop] at hs hseq
        rw [List.append_nil] at hs
        refine ⟨.tagged s, tag, 0, rfl, ⟨hs ▸ htag, rfl⟩, (Option.some.inj hseq).symm⟩
      | cons d c =>
        obtain rfl := dropWhile_colon s c d hdrop
        rw [hdrop] at hs hseq
        obtain ⟨neg, n, r, hnum, rfl⟩ := (dcdParseSharedSeq_colon dpa len tag c v).mp hseq
        exact ⟨.sequenced _ c, tag, _, congrArg (':' :: ·) hs, ⟨htag, neg, n, r, hnum, rfl⟩, rfl⟩
    · rw [dcdParseExtentTail_other dpa len rest hcolon] at h
      exact ⟨.other rest, zeros 16, 0, rfl, ⟨hcolon, rfl, rfl⟩, (Option.some.inj h).symm⟩
  · rintro ⟨tail, tag, seq, rfl, hgives, rfl⟩
    cases tail with
    | other rest =>
      obtain ⟨hhead, rfl, rfl⟩ := hgives
      exact dcdParseExtentTail_other dpa len rest hhead
    | tagged t =>
      obtain ⟨htag, rfl⟩ := hgives
      obtain ⟨htake, hdrop⟩ := takeWhile_last t htag.colon_notMem
      refine (dcdParseExtentTail_colon dpa len t _).mpr ⟨tag, by rw [htake]; exact htag, ?_⟩
      rw [hdrop]
      rfl
    | sequenced t c =>
      obtain ⟨htag, neg, n, r, hnum, rfl⟩ := hgives
      obtain ⟨htake, hdrop⟩ := takeWhile_field t c htag.colon_notMem
      refine (dcdParseExtentTail_colon dpa len _ _).mpr ⟨tag, by rw [htake]; exact htag, ?_⟩
      rw [hdrop, dcdParseSharedSeq_colon]
      exact ⟨neg, n, r, hnum, rfl⟩

/-- Two numbers as `strtoull` takes them, and a tail. -/
structure ExtentReading (s : String) (neg₁ : Bool) (n₁ : ℕ) (p : List Char) (neg₂ : Bool) (n₂ : ℕ) (tail : ExtentTail) :
    Prop where
  dpa : numeral s = some (neg₁, n₁, ':' :: p)
  len : numeral (String.ofList p) = some (neg₂, n₂, tail.text)

theorem dcdParseExtentArg_iff (s : String) (v : ExtentArg) :
    dcdParseExtentArg s = some v ↔ ∃ neg₁ n₁ p neg₂ n₂ tail tag seq, ExtentReading s neg₁ n₁ p neg₂ n₂ tail ∧
      tail.Gives tag seq ∧ v = ⟨signedValue neg₁ n₁, signedValue neg₂ n₂, tag, seq⟩ := by
  unfold dcdParseExtentArg
  rw [Option.bind_eq_some_iff]
  constructor
  · rintro ⟨⟨dpa, rest⟩, hdpa, h⟩
    obtain ⟨neg₁, n₁, hnum₁, rfl⟩ := (convert_eq_some_iff _ rest dpa).mp hdpa
    rw [String.ofList_toList] at hnum₁
    dsimp only at h
    split at h
    · rename_i p
      obtain ⟨⟨len, rest⟩, hlen, h⟩ := Option.bind_eq_some_iff.mp h
      obtain ⟨neg₂, n₂, hnum₂, rfl⟩ := (convert_eq_some_iff p rest len).mp hlen
      obtain ⟨tail, tag, seq, rfl, hgives, rfl⟩ := (dcdParseExtentTail_iff _ _ rest v).mp h
      exact ⟨neg₁, n₁, p, neg₂, n₂, tail, tag, seq, ⟨hnum₁, hnum₂⟩, hgives, rfl⟩
    · cases h
  · rintro ⟨neg₁, n₁, p, neg₂, n₂, tail, tag, seq, hread, hgives, rfl⟩
    refine ⟨(signedValue neg₁ n₁, ':' :: p), ?_, ?_⟩
    · rw [convert_eq_some_iff, String.ofList_toList]
      exact ⟨neg₁, n₁, hread.dpa, rfl⟩
    · refine Option.bind_eq_some_iff.mpr ⟨(signedValue neg₂ n₂, tail.text), ?_, ?_⟩
      · rw [convert_eq_some_iff]
        exact ⟨neg₂, n₂, hread.len, rfl⟩
      · exact (dcdParseExtentTail_iff _ _ _ _).mpr ⟨tail, tag, seq, rfl, hgives, rfl⟩

end LibCxlmi.Tools
