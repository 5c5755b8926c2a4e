import LibCxlmi.Tools.LogUuid

/-!
# Forms of UUID arguments (mbcci-sfx cmd_logs.c:327-443, mctp-cci util.c:131-169)

Both parsers read a UUID as it is printed. What they take besides is told by the
characters they copy.
-/

namespace LibCxlmi.Tools
open LibCxlmi.Word LibCxlmi.Text

/-! ### UUIDs proper -/

theorem filter_digits (hex : List Char) (h : HexDigits hex) : (hex.filter fun c => c ≠ '-') = hex := by
  refine List.filter_eq_self.mpr fun c hc => ?_
  have hne : c ≠ '-' := fun heq => not_sign_of_digit c (by have := h c hc; omega) (Or.inr heq)
  simpa using hne

theorem HexDigits.of_subset {hex part : List Char} (h : HexDigits hex) (hsub : ∀ c ∈ part, c ∈ hex) : HexDigits part :=
  fun c hc => h c (hsub c hc)

theorem filter_dashed (hex : List Char) (h : HexDigits hex) : ((dashed hex).filter fun c => c ≠ '-') = hex := by
  have htake : ∀ m n, HexDigits ((hex.drop m).take n) := fun m n =>
    h.of_subset fun c hc => List.mem_of_mem_drop (List.mem_of_mem_take hc)
  have hfirst : HexDigits (hex.take 8) := h.of_subset fun c hc => List.mem_of_mem_take hc
  have hlast : HexDigits (hex.drop 20) := h.of_subset fun c hc => List.mem_of_mem_drop hc
  have hdash : ∀ l, (('-' :: l).filter fun c => c ≠ '-') = l.filter fun c => c ≠ '-' := fun l => rfl
  simp only [dashed, List.filter_append, hdash, filter_digits _ hfirst, filter_digits _ (htake _ _),
    filter_digits _ hlast]
  exact groups_join hex

theorem withoutDashes_uuid (s : String) (hex : List Char) (h : AtDashes s hex) (hd : HexDigits hex) :
    withoutDashes s = hex := by
  obtain ⟨hlen, hs | hs⟩ := h
  · rw [withoutDashes, hs, filter_digits hex hd, List.take_of_length_le hlen.le]
  · rw [withoutDashes, hs, filter_dashed hex hd, List.take_of_length_le hlen.le]

/-- Both parsers take the digits of a UUID, and read the same numbers. -/
theorem parsers_uuid (bare : Bool) (s : String) (hex : List Char) (h : AtDashes s hex) (hd : HexDigits hex) :
    parseLogUuid (scanHex bare) s = scanBytes (scanHex bare) 16 hex ∧
      mctpParseLogUuid (scanHex bare) s = scanBytes (scanHex bare) 16 hex := by
  refine ⟨?_, mctpParseLogUuid_atDashes _ s hex h⟩
  show (if (withoutDashes s).length ≠ 32 then none else scanBytes (scanHex bare) 16 (withoutDashes s)) = _
  rw [withoutDashes_uuid s hex h hd, if_neg (not_not.mpr h.1)]

/-! ### Printed UUIDs -/

theorem digitVal_hexChar : ∀ d : Fin 16, digitVal (hexChar d.val) = d.val := by decide

theorem hexChars_length (bs : Bytes) : (hexChars bs).length = 2 * bs.length := by
  induction bs with
  | nil => rfl
  | cons b bs ih =>
    show (hexChars bs).length + 2 = 2 * (bs.length + 1)
    omega

theorem hexChars_digits (bs : Bytes) : HexDigits (hexChars bs) := by
  intro c hc
  obtain ⟨b, -, hc⟩ := List.mem_flatMap.mp hc
  have hhigh := digitVal_hexChar ⟨b.val / 16, by omega⟩
  have hlow := digitVal_hexChar ⟨b.val % 16, by omega⟩
  simp only [List.mem_cons, List.not_mem_nil, or_false] at hc
  rcases hc with rfl | rfl
  · rw [hhigh]
    omega
  · rw [hlow]
    omega

theorem scanBytes_hexChars (bare : Bool) (n : ℕ) (v : Vec n) :
    scanBytes (scanHex bare) n (hexChars v.val) = some v := by
  obtain ⟨bs, hbs⟩ := v
  induction n generalizing bs with
  | zero =>
    obtain rfl := List.length_eq_zero_iff.mp hbs
    rfl
  | succ n ih =>
    cases bs with
    | nil => cases hbs
    | cons b bs =>
      have hhigh := digitVal_hexChar ⟨b.val / 16, by omega⟩
      have hlow := digitVal_hexChar ⟨b.val % 16, by omega⟩
      have hrest := ih bs (Nat.succ.inj hbs)
      show scanBytes (scanHex bare) (n + 1) (hexChar (b.val / 16) :: hexChar (b.val % 16) :: hexChars bs) = _
      rw [scanBytes, scanHex_digits bare _ _ _ (by rw [hhigh]; show b.val / 16 < 16; omega)
        (by rw [hlow]; show b.val % 16 < 16; omega), hhigh, hlow, byte_of_digits, Option.bind_some]
      show (scanBytes (scanHex bare) n (hexChars bs)).map _ = _
      rw [hrest]
      rfl

theorem uuidText_atDashes (uuid : Vec 16) : AtDashes (uuidText uuid) (hexChars uuid.val) := by
  refine ⟨?_, Or.inr String.toList_ofList⟩
  rw [hexChars_length, uuid.property]

/-! ### What slips through -/

/-- The two parsers take UUIDs and nothing else, and agree on them. -/
structure UuidArgument (bare : Bool) (s : String) : Prop where
  mbcci : (parseLogUuid (scanHex bare) s).isSome = true ↔ IsUuid s
  mctp : (mctpParseLogUuid (scanHex bare) s).isSome = true ↔ IsUuid s
  same : ∀ a b, parseLogUuid (scanHex bare) s = some a → mctpParseLogUuid (scanHex bare) s = some b → a = b

/-- For every argument: the parsers do right by it if it is a UUID, or if there is no
number at some place of the 32 characters that each of them takes. Printed UUIDs are
always read back. -/
theorem uuid_arguments_iff (bare : Bool) :
    (∀ s, UuidArgument bare s ↔ IsUuid s ∨
      (¬ Readable bare (withoutDashes s) ∧ ¬ ∃ hex, AtDashes s hex ∧ Readable bare hex)) ∧
    ∀ uuid : Vec 16, ∀ text ∈ [printLogUuid uuid, printUuid uuid],
      parseLogUuid (scanHex bare) text = some uuid ∧ mctpParseLogUuid (scanHex bare) text = some uuid := by
  constructor
  · intro s
    rw [← parseLogUuid_isSome_iff, ← mctpParseLogUuid_isSome_iff]
    constructor
    · intro h
      by_cases hs : IsUuid s
      · exact Or.inl hs
      · exact Or.inr ⟨fun hmb => hs (h.mbcci.mp hmb), fun hmc => hs (h.mctp.mp hmc)⟩
    · rintro (⟨hex, hlen, hd, hs⟩ | ⟨hmb, hmc⟩)
      · have hat : AtDashes s hex := ⟨hlen, hs⟩
        obtain ⟨hmb, hmc⟩ := parsers_uuid bare s hex hat hd
        have hsome := scanBytes_digits bare 16 hex hlen hd
        have huuid : IsUuid s := ⟨hex, hlen, hd, hs⟩
        refine ⟨iff_of_true (by rw [hmb]; exact hsome) huuid, iff_of_true (by rw [hmc]; exact hsome) huuid, ?_⟩
        intro a b ha hb
        exact Option.some.inj (by rw [← ha, ← hb, hmb, hmc])
      · have hnot : ¬ IsUuid s := by
          rintro ⟨hex, hlen, hd, hs⟩
          have hsome := scanBytes_digits bare 16 hex hlen hd
          rw [← (parsers_uuid bare s hex ⟨hlen, hs⟩ hd).1] at hsome
          exact hmb hsome
        refine ⟨iff_of_false hmb hnot, iff_of_false hmc hnot, ?_⟩
        intro a b ha
        rw [ha] at hmb
        exact absurd rfl hmb
  · intro uuid text htext
    have huuid : text = uuidText uuid := by
      simp only [List.mem_cons, List.not_mem_nil, or_false] at htext
      rcases htext with rfl | rfl <;> rfl
    rw [huuid]
    obtain ⟨hmb, hmc⟩ := parsers_uuid bare _ _ (uuidText_atDashes uuid) (hexChars_digits uuid.val)
    rw [hmb, hmc]
    exact ⟨scanBytes_hexChars bare 16 uuid, scanBytes_hexChars bare 16 uuid⟩

/-- mbcci-sfx does not look at what stands behind the 32nd digit. -/
theorem uuid_with_a_tail : (parseLogUuid (scanHex true) "0da9c0b5bf414b788f7996b1623b3f17!").isSome = true ∧
    ¬ UuidArgument true "0da9c0b5bf414b788f7996b1623b3f17!" := by
  have htaken : (parseLogUuid (scanHex true) "0da9c0b5bf414b788f7996b1623b3f17!").isSome = true := by decide
  refine ⟨htaken, ?_⟩
  intro h
  obtain ⟨hex, hlen, -, hs | hs⟩ := h.mbcci.mp htaken
  · rw [← hs] at hlen
    exact absurd hlen (by decide)
  · have h36 := dashed_length hex hlen
    rw [← hs] at h36
    exact absurd h36 (by decide)

end LibCxlmi.Tools
