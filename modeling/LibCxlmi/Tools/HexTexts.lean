import LibCxlmi.Tools.HexFiles

/-!
# Texts of payload files (cmd_features.c:98-162)

Which texts the reader takes, with which code it refuses the others, and that it reads
back what the writer wrote.
-/

namespace LibCxlmi.Tools
open LibCxlmi.Word LibCxlmi.Text LibCxlmi.Dialogue

/-! ### Texts -/

def isHexDigit (c : Byte) : Bool := (hexVal c).isSome

/-- The text without its white space. -/
def squeezed (text : Bytes) : Bytes := text.filter fun c => !isSpace (Char.ofNat c.val)

/-- The bytes that digits stand for, two at a time. -/
def pairBytes : Bytes → Bytes
  | [] => []
  | [_] => []
  | a :: b :: s => Fin.ofNat 256 (16 * (hexVal a).getD 0 + (hexVal b).getD 0) :: pairBytes s

/-- An even number of digits and nothing else, for at most `maxLen` bytes. -/
structure HexText (maxLen : ℕ) (text : Bytes) : Prop where
  digits : ∀ c ∈ squeezed text, isHexDigit c = true
  even : (squeezed text).length % 2 = 0
  room : (squeezed text).length ≤ 2 * maxLen

/-- The digits that stand before anything else but white space. -/
def leadingDigits (text : Bytes) : Bytes := (squeezed text).takeWhile isHexDigit

theorem squeezed_space (c : Byte) (s : Bytes) (hsp : isSpace (Char.ofNat c.val) = true) :
    squeezed (c :: s) = squeezed s := by
  simp [squeezed, hsp]

theorem squeezed_keep (c : Byte) (s : Bytes) (hsp : ¬ isSpace (Char.ofNat c.val) = true) :
    squeezed (c :: s) = c :: squeezed s := by
  simp [squeezed, hsp]

theorem squeezed_spaceless (text : Bytes) : ∀ c ∈ squeezed text, ¬ isSpace (Char.ofNat c.val) = true := by
  intro c hc
  simpa using (List.mem_filter.mp hc).2

theorem readHexLoop_squeezed (maxLen : ℕ) (text : Bytes) (hi : Option ℕ) (buf : Bytes) :
    readHexLoop maxLen (squeezed text) hi buf = readHexLoop maxLen text hi buf := by
  fun_induction readHexLoop maxLen text hi buf with
  | case1 buf => rfl
  | case2 h buf => rfl
  | case3 c s hi buf hsp ih => rw [squeezed_space c s hsp, ih]
  | case4 c s hi buf hsp hbad => rw [squeezed_keep c s hsp, readHexLoop_bad _ buf hi hsp hbad]
  | case5 c s buf hsp d hd ih => rw [squeezed_keep c s hsp, readHexLoop_high _ buf hsp hd, ih]
  | case6 c s buf hsp d h hd hfull => rw [squeezed_keep c s hsp, readHexLoop_full _ buf h hsp hd hfull]
  | case7 c s buf hsp d h hd hroom ih => rw [squeezed_keep c s hsp, readHexLoop_low _ buf h hsp hd hroom, ih]

theorem isHexDigit_iff (c : Byte) : isHexDigit c = true ↔ ∃ d, hexVal c = some d := Option.isSome_iff_exists

theorem not_isHexDigit (c : Byte) (h : hexVal c = none) : ¬ isHexDigit c = true := by
  simp [isHexDigit, h]

/-- What the reader makes of a text without white space: the code, by what it meets
first, and the bytes. -/
def hexOutcome (room : ℕ) (s : Bytes) : ℤ :=
  if 2 * room + 2 ≤ (s.takeWhile isHexDigit).length then -3
  else if s.all isHexDigit = true ∧ s.length % 2 = 0 then 0
  else -2

theorem hexOutcome_stop (room : ℕ) (a : Byte) (s : Bytes) (ha : ¬ isHexDigit a = true) :
    hexOutcome room (a :: s) = -2 := by
  have hlead : (a :: s).takeWhile isHexDigit = [] := by simp [ha]
  have hall : ¬ ((a :: s).all isHexDigit = true ∧ (a :: s).length % 2 = 0) := by
    intro h
    exact ha (List.all_eq_true.mp h.1 a List.mem_cons_self)
  rw [hexOutcome, hlead, if_neg (by simp), if_neg hall]

theorem hexOutcome_stop_second (room : ℕ) (a b : Byte) (s : Bytes) (ha : isHexDigit a = true)
    (hb : ¬ isHexDigit b = true) : hexOutcome room (a :: b :: s) = -2 := by
  have hlead : (a :: b :: s).takeWhile isHexDigit = [a] := by simp [ha, hb]
  have hall : ¬ ((a :: b :: s).all isHexDigit = true ∧ (a :: b :: s).length % 2 = 0) := by
    intro h
    exact hb (List.all_eq_true.mp h.1 b (by simp))
  rw [hexOutcome, hlead, if_neg (by simp), if_neg hall]

theorem hexOutcome_full (a b : Byte) (s : Bytes) (ha : isHexDigit a = true) (hb : isHexDigit b = true) :
    hexOutcome 0 (a :: b :: s) = -3 := by
  have hlead : 2 * 0 + 2 ≤ ((a :: b :: s).takeWhile isHexDigit).length := by simp [ha, hb]
  rw [hexOutcome, if_pos hlead]

theorem hexOutcome_pair (room : ℕ) (a b : Byte) (s : Bytes) (ha : isHexDigit a = true) (hb : isHexDigit b = true) :
    hexOutcome (room + 1) (a :: b :: s) = hexOutcome room s := by
  have hlead : ((a :: b :: s).takeWhile isHexDigit).length = (s.takeWhile isHexDigit).length + 2 := by
    simp [ha, hb]
  have hfit : 2 * (room + 1) + 2 ≤ (s.takeWhile isHexDigit).length + 2 ↔
      2 * room + 2 ≤ (s.takeWhile isHexDigit).length := by omega
  have hall : (a :: b :: s).all isHexDigit = s.all isHexDigit := by
    rw [List.all_cons, List.all_cons, ha, hb, Bool.true_and, Bool.true_and]
  have heven : (a :: b :: s).length % 2 = s.length % 2 := by
    rw [List.length_cons, List.length_cons]
    omega
  simp only [hexOutcome, hlead, hfit, hall, heven]

/-- One pass over the pairs of a text: the code it ends with and, when that is 0, the
bytes it has put behind those it had. -/
theorem readHexLoop_pairs (maxLen : ℕ) (s buf : Bytes) (hsp : ∀ c ∈ s, ¬ isSpace (Char.ofNat c.val) = true)
    (hbuf : buf.length ≤ maxLen) :
    (readHexLoop maxLen s none buf).rc = hexOutcome (maxLen - buf.length) s ∧
      ((readHexLoop maxLen s none buf).rc = 0 → (readHexLoop maxLen s none buf).buf = buf ++ pairBytes s) := by
  fun_induction pairBytes s generalizing buf with
  | case1 =>
    have hcode : hexOutcome (maxLen - buf.length) [] = 0 := by simp [hexOutcome]
    rw [hcode, List.append_nil]
    exact ⟨rfl, fun _ => rfl⟩
  | case2 a =>
    have ha := hsp a List.mem_cons_self
    have hcode : hexOutcome (maxLen - buf.length) [a] = -2 := by
      have hshort : ([a].takeWhile isHexDigit).length ≤ 1 :=
        (List.takeWhile_prefix isHexDigit).length_le
      rw [hexOutcome, if_neg (by omega), if_neg (by simp)]
    have hrun : readHexLoop maxLen [a] none buf = ⟨-2, buf⟩ := by
      cases hv : hexVal a with
      | none => exact readHexLoop_bad [] buf none ha hv
      | some d => rw [readHexLoop_high [] buf ha hv]; rfl
    rw [hrun, hcode]
    exact ⟨rfl, by simp⟩
  | case3 a b s ih =>
    have ha := hsp a (by simp)
    have hb := hsp b (by simp)
    have hs : ∀ c ∈ s, ¬ isSpace (Char.ofNat c.val) = true := fun c hc => hsp c (by simp [hc])
    cases hva : hexVal a with
    | none =>
      rw [readHexLoop_bad _ buf none ha hva, hexOutcome_stop _ a _ (not_isHexDigit a hva)]
      exact ⟨rfl, by simp⟩
    | some x =>
      have hda := (isHexDigit_iff a).mpr ⟨x, hva⟩
      rw [readHexLoop_high _ buf ha hva]
      cases hvb : hexVal b with
      | none =>
        rw [readHexLoop_bad _ buf _ hb hvb, hexOutcome_stop_second _ a b s hda (not_isHexDigit b hvb)]
        exact ⟨rfl, by simp⟩
      | some y =>
        have hdb := (isHexDigit_iff b).mpr ⟨y, hvb⟩
        rcases Nat.lt_or_ge buf.length maxLen with hroom | hfull
        · have hnext : (buf ++ [Fin.ofNat 256 (16 * x + y)]).length ≤ maxLen := by
            rw [List.length_append, List.length_singleton]
            omega
          obtain ⟨hrc, hout⟩ := ih (buf ++ [Fin.ofNat 256 (16 * x + y)]) hs hnext
          have hleft : maxLen - buf.length = maxLen - (buf ++ [Fin.ofNat 256 (16 * x + y)]).length + 1 := by
            rw [List.length_append, List.length_singleton]
            omega
          rw [readHexLoop_low s buf x hb hvb (not_le.mpr hroom), hleft, hexOutcome_pair _ a b s hda hdb]
          exact ⟨hrc, fun h => by rw [hout h, List.append_assoc]; rfl⟩
        · have hnone : maxLen - buf.length = 0 := by omega
          rw [readHexLoop_full s buf x hb hvb hfull, hnone, hexOutcome_full a b s hda hdb]
          exact ⟨rfl, by simp⟩

theorem readHexText_rc (maxLen : ℕ) (text : Bytes) :
    (readHexText maxLen text).rc = hexOutcome maxLen (squeezed text) := by
  rw [readHexText, ← readHexLoop_squeezed]
  exact (readHexLoop_pairs maxLen _ [] (squeezed_spaceless text) (Nat.zero_le maxLen)).1

theorem readHexText_buf (maxLen : ℕ) (text : Bytes) (h : (readHexText maxLen text).rc = 0) :
    (readHexText maxLen text).buf = pairBytes (squeezed text) := by
  rw [readHexText, ← readHexLoop_squeezed] at h ⊢
  exact (readHexLoop_pairs maxLen _ [] (squeezed_spaceless text) (Nat.zero_le maxLen)).2 h

/-- The code is 0 for the texts that are well formed and fit. -/
theorem hexOutcome_eq_zero_iff (maxLen : ℕ) (text : Bytes) :
    hexOutcome maxLen (squeezed text) = 0 ↔ HexText maxLen text := by
  constructor
  · intro h
    unfold hexOutcome at h
    split_ifs at h with hlong hgood
    have hdigits := List.all_eq_true.mp hgood.1
    have hlead : (squeezed text).takeWhile isHexDigit = squeezed text := List.takeWhile_eq_self_iff.mpr hdigits
    rw [hlead] at hlong
    exact ⟨hdigits, hgood.2, by omega⟩
  · intro h
    have hlead : (squeezed text).takeWhile isHexDigit = squeezed text := List.takeWhile_eq_self_iff.mpr h.digits
    have hroom := h.room
    rw [hexOutcome, hlead, if_neg (by omega), if_pos ⟨List.all_eq_true.mpr h.digits, h.even⟩]

/-- A text that is refused: the limit comes first when enough digits lead it. -/
theorem hexOutcome_of_not (maxLen : ℕ) (text : Bytes) (h : ¬ HexText maxLen text) :
    hexOutcome maxLen (squeezed text) = if 2 * maxLen + 2 ≤ (leadingDigits text).length then -3 else -2 := by
  have hne : hexOutcome maxLen (squeezed text) ≠ 0 := fun h0 => h ((hexOutcome_eq_zero_iff maxLen text).mp h0)
  unfold hexOutcome at hne ⊢
  unfold leadingDigits
  split_ifs with hlong hgood
  · rfl
  · rw [if_neg hlong, if_pos hgood] at hne
    exact absurd rfl hne
  · rfl

/-- What was written is read back; for every text the code says what was met first,
and no byte is stored behind the limit. -/
theorem hex_payload_files :
    (∀ path buf, ∃ t, (writeHexPayloadFile path buf).Runs t 0) ∧
    (∀ (path : String) (buf : Bytes) (maxLen : ℕ) (t : History FileCall fun _ => Bool), buf.length ≤ maxLen →
      (writeHexPayloadFile path buf).Runs t 0 → readHexText maxLen (printedText t) = ⟨0, buf⟩) ∧
    ∀ (maxLen : ℕ) (text : Bytes),
      ((readHexText maxLen text).rc = 0 ↔ HexText maxLen text) ∧
      (HexText maxLen text → (readHexText maxLen text).buf = pairBytes (squeezed text)) ∧
      (¬ HexText maxLen text →
        (readHexText maxLen text).rc = if 2 * maxLen + 2 ≤ (leadingDigits text).length then -3 else -2) ∧
      (readHexText maxLen text).buf.length ≤ maxLen := by
  refine ⟨writeHexPayloadFile_returns, ?_, ?_⟩
  · intro path buf maxLen t hlen hrun
    rw [writeHexPayloadFile_text path buf t hrun]
    exact readHexText_writeHex maxLen buf hlen
  · intro maxLen text
    have hzero : (readHexText maxLen text).rc = 0 ↔ HexText maxLen text := by
      rw [readHexText_rc]
      exact hexOutcome_eq_zero_iff maxLen text
    refine ⟨hzero, ?_, ?_, ?_⟩
    · intro h
      exact readHexText_buf maxLen text (hzero.mpr h)
    · intro h
      rw [readHexText_rc]
      exact hexOutcome_of_not maxLen text h
    · exact readHexLoop_length_le maxLen text none [] (Nat.zero_le maxLen)

end LibCxlmi.Tools
