import LibCxlmi.Tools.ExtentArgs
import LibCxlmi.Tools.UuidForms

/-!
# Tags as they are printed (cmd_sdb_tunnel.c:5919-5965, 6051-6057)

A tag is read as one number of up to 128 bits, with the highest byte first, and printed
with all of its 32 digits. The prefix that the parser skips is never taken out of a
printed tag, since `x` is not among the digits.
-/

namespace LibCxlmi.Tools
open LibCxlmi.Word LibCxlmi.Text

/-- `%02x` of each byte. -/
def dcdPrintHexTag (tag : Vec 16) : String := String.ofList (hexChars tag.val)

/-! ### Tags as numbers -/

/-- An optional prefix and 1 to 32 digits, which make up the number `n`. -/
def TagNumeral (t : List Char) (n : ℕ) : Prop :=
  ∃ hex, (t = hex ∨ t = '0' :: 'x' :: hex ∨ t = '0' :: 'X' :: hex) ∧ 1 ≤ hex.length ∧ hex.length ≤ 32 ∧
    HexDigits hex ∧ n = digitsVal 16 0 hex

/-- The number that bytes stand for with the highest one first. -/
def bigEndianVal (bs : Bytes) : ℕ := bs.foldl (fun a b => a * 256 + b.val) 0

theorem tagText_iff (t : List Char) (tag : Bytes) :
    TagText t tag ↔ ∃ n, TagNumeral t n ∧ tag = (leBytes 16 n).reverse := by
  constructor
  · rintro ⟨hex, ht, hpos, hle, hd, htag⟩
    exact ⟨_, ⟨hex, ht, hpos, hle, hd, rfl⟩, htag⟩
  · rintro ⟨n, ⟨hex, ht, hpos, hle, hd, rfl⟩, htag⟩
    exact ⟨hex, ht, hpos, hle, hd, htag⟩

theorem digitsVal_lt (acc : ℕ) (hex : List Char) (h : HexDigits hex) :
    digitsVal 16 acc hex < (acc + 1) * 16 ^ hex.length := by
  induction hex generalizing acc with
  | nil => simp [digitsVal]
  | cons c s ih =>
    have hc := h c (by simp)
    have hrest := ih (acc * 16 + digitVal c) fun d hd => h d (by simp [hd])
    calc digitsVal 16 acc (c :: s)
        < (acc * 16 + digitVal c + 1) * 16 ^ s.length := hrest
      _ ≤ (acc + 1) * 16 * 16 ^ s.length := Nat.mul_le_mul_right _ (by omega)
      _ = (acc + 1) * 16 ^ (c :: s).length := by rw [List.length_cons, pow_succ]; ring

theorem TagNumeral.lt {t : List Char} {n : ℕ} (h : TagNumeral t n) : n < 256 ^ 16 := by
  obtain ⟨hex, -, -, hle, hd, rfl⟩ := h
  calc digitsVal 16 0 hex < (0 + 1) * 16 ^ hex.length := digitsVal_lt 0 hex hd
    _ = 16 ^ hex.length := by rw [Nat.zero_add, Nat.one_mul]
    _ ≤ 16 ^ 32 := Nat.pow_le_pow_right (by decide) hle
    _ = 256 ^ 16 := by norm_num

theorem foldl_bytes (acc : ℕ) (bs : Bytes) :
    bs.foldl (fun a b => a * 256 + b.val) acc = acc * 256 ^ bs.length + leVal bs.reverse := by
  induction bs generalizing acc with
  | nil => simp
  | cons b bs ih =>
    rw [List.foldl_cons, ih, leVal_reverse_cons, List.length_cons, pow_succ]
    ring

theorem bigEndianVal_reverse (bs : Bytes) : bigEndianVal bs.reverse = leVal bs := by
  rw [bigEndianVal, foldl_bytes, Nat.zero_mul, Nat.zero_add, List.reverse_reverse]

/-! ### Printed tags -/

theorem bytesOfHex_hexChars (bs : Bytes) : bytesOfHex (hexChars bs) = bs := by
  induction bs with
  | nil => rfl
  | cons b bs ih =>
    have hhigh := digitVal_hexChar ⟨b.val / 16, by omega⟩
    have hlow := digitVal_hexChar ⟨b.val % 16, by omega⟩
    show bytesOfHex (hexChar (b.val / 16) :: hexChar (b.val % 16) :: hexChars bs) = b :: bs
    rw [bytesOfHex, hhigh, hlow, byte_of_digits, ih]

theorem dcdParseHexTag_print (tag : Vec 16) : dcdParseHexTag (dcdPrintHexTag tag).toList = some tag.val := by
  have hlen : (hexChars tag.val).length = 32 := by rw [hexChars_length, tag.property]
  have hd := hexChars_digits tag.val
  have hany : (hexChars tag.val).any (fun c => decide (16 ≤ digitVal c)) = false := by
    rw [List.any_eq_false]
    intro c hc
    simpa using hd c hc
  simp [dcdParseHexTag, dcdPrintHexTag, skipHexPrefix_digits _ hd, hlen, hany, bytesOfHex_hexChars]

/-! ### The round trip -/

theorem hex_tags_round_trip :
    (∀ arg : String, (∃ tag, dcdParseHexTag arg.toList = some tag) ↔ ∃ n, TagNumeral arg.toList n) ∧
    (∀ (arg : String) (tag : Bytes) (n : ℕ), dcdParseHexTag arg.toList = some tag → TagNumeral arg.toList n →
      tag.length = 16 ∧ bigEndianVal tag = n) ∧
    ∀ tag : Vec 16, dcdParseHexTag (dcdPrintHexTag tag).toList = some tag.val := by
  refine ⟨fun arg => ?_, fun arg tag n htag hn => ?_, dcdParseHexTag_print⟩
  · simp only [dcdParseHexTag_iff, tagText_iff]
    constructor
    · rintro ⟨tag, n, hn, -⟩
      exact ⟨n, hn⟩
    · rintro ⟨n, hn⟩
      exact ⟨_, n, hn, rfl⟩
  · have hread := (dcdParseHexTag_iff arg.toList _).mpr ((tagText_iff arg.toList _).mpr ⟨n, hn, rfl⟩)
    obtain rfl := Option.some.inj (htag.symm.trans hread)
    rw [List.length_reverse, leBytes_length, bigEndianVal_reverse, leVal_leBytes_of_lt 16 n hn.lt]
    exact ⟨rfl, rfl⟩

theorem short_tag_read : ∃ tag, dcdParseHexTag "0x1f".toList = some tag ∧ tag.length = 16 ∧ bigEndianVal tag = 31 := by
  have hdigits : HexDigits ['1', 'f'] := by
    intro c hc
    simp only [List.mem_cons, List.not_mem_nil, or_false] at hc
    rcases hc with rfl | rfl
    · decide
    · decide
  have hnum : TagNumeral "0x1f".toList 31 :=
    ⟨['1', 'f'], Or.inr (Or.inl (by decide)), by decide, by decide, hdigits, by decide⟩
  obtain ⟨tag, htag⟩ := (hex_tags_round_trip.1 "0x1f").mpr ⟨31, hnum⟩
  exact ⟨tag, htag, hex_tags_round_trip.2.1 "0x1f" tag 31 htag hnum⟩

end LibCxlmi.Tools
