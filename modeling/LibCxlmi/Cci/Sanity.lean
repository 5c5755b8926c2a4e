import LibCxlmi.Cci.Message

/-!
# The response check (cxlmi.c:348, sanity_check_mctp_rsp)

`sanityCheckMctpRsp` is the check every unwrapping routine applies to one CCI
layer. Its specification is the layer's `Report`: the layer is fine, carries a
nonzero CXL return code, or cannot be used. `judge` reads a list of reports,
outermost layer first; the first layer that is not fine decides.
-/

namespace LibCxlmi.Cci
open LibCxlmi.Word

/-- `rsp` is the memory the response pointer designates, `len` the length the
caller passes; nothing forces the two to agree. -/
def sanityCheckMctpRsp (o : ByteOrder) (req rsp : Bytes) (len : ℕ) (fixedLength : Bool)
    (minLength : ℕ) : ℤ :=
  if len < 12 then -1
  else if category rsp ≠ categoryRsp then -1
  else if tag rsp ≠ tag req then -1
  else if command rsp ≠ command req ∨ commandSet rsp ≠ commandSet req then -1
  else if returnCode o rsp ≠ 0 then returnCode o rsp
  else if fixedLength = true ∧ len ≠ minLength then -1
  else if fixedLength = false ∧ len < minLength then -1
  else if len - 12 ≠ plLength rsp then -1
  else 0

/-- The length rule: exactly `n` bytes, or at least `n`. -/
def LengthOk (fixedLength : Bool) (n len : ℕ) : Prop :=
  if fixedLength then len = n else n ≤ len

instance (fixedLength : Bool) (n len : ℕ) : Decidable (LengthOk fixedLength n len) := by
  unfold LengthOk
  infer_instance

theorem LengthOk.le {fixedLength : Bool} {n len : ℕ} (h : LengthOk fixedLength n len) : n ≤ len := by
  unfold LengthOk at h
  split at h
  · exact Nat.le_of_eq h.symm
  · exact h

inductive Report where
  | ok
  | failed
  | code (c : ℕ)
  deriving DecidableEq, Repr

def Report.rc : Report → ℤ
  | .ok => 0
  | .failed => -1
  | .code c => c

def judge : List Report → ℤ
  | [] => 0
  | .ok :: rs => judge rs
  | .failed :: _ => -1
  | .code c :: _ => c

/-- What one layer, the message `m` as received, says to the request `req`. -/
def cciReport (o : ByteOrder) (req m : Bytes) (fixedLength : Bool) (n : ℕ) : Report :=
  if m.length < 12 ∨ ¬Answers req m then .failed
  else if returnCode o m ≠ 0 then .code (returnCode o m)
  else if LengthOk fixedLength n m.length ∧ m.length - 12 = plLength m then .ok
  else .failed

theorem sanityCheck_of_not_answers (o : ByteOrder) (req rsp : Bytes) (len : ℕ) (f : Bool) (n : ℕ)
    (h : ¬Answers req rsp) : sanityCheckMctpRsp o req rsp len f n = -1 := by
  unfold sanityCheckMctpRsp
  split_ifs with h1 h2 h3 h4
  any_goals rfl
  all_goals
    obtain ⟨hcmd, hset⟩ := not_or.mp h4
    exact absurd ⟨not_not.mp h2, not_not.mp h3, not_not.mp hcmd, not_not.mp hset⟩ h

theorem sanityCheck_of_answers (o : ByteOrder) (req rsp : Bytes) (len : ℕ) (f : Bool) (n : ℕ) (hl : 12 ≤ len)
    (h : Answers req rsp) :
    sanityCheckMctpRsp o req rsp len f n =
      if returnCode o rsp ≠ 0 then (returnCode o rsp : ℤ)
      else if LengthOk f n len ∧ len - 12 = plLength rsp then 0 else -1 := by
  obtain ⟨hcat, htag, hcmd, hset⟩ := h
  unfold sanityCheckMctpRsp
  rw [if_neg (not_lt.mpr hl), if_neg (not_not.mpr hcat), if_neg (not_not.mpr htag),
    if_neg (not_or.mpr ⟨not_not.mpr hcmd, not_not.mpr hset⟩)]
  by_cases hc : returnCode o rsp ≠ 0
  · rw [if_pos hc, if_pos hc]
  · rw [if_neg hc, if_neg hc]
    -- the two length rules are the cases of `LengthOk`
    cases f with
    | true =>
      simp only [LengthOk, true_and, if_true, Bool.true_eq_false, false_and, if_false]
      split_ifs <;> omega
    | false =>
      simp only [LengthOk, true_and, Bool.false_eq_true, false_and, if_false]
      split_ifs <;> omega

/-- On a buffer that starts with the `d.length` received bytes, the check is
the report of `d`, whatever follows them. -/
theorem sanityCheck_eq_report (o : ByteOrder) (req d z : Bytes) (f : Bool) (n : ℕ) :
    sanityCheckMctpRsp o req (d ++ z) d.length f n = (cciReport o req d f n).rc := by
  unfold cciReport
  by_cases hl : d.length < 12
  · rw [if_pos (Or.inl hl), sanityCheckMctpRsp, if_pos hl]
    rfl
  · have hl' : 12 ≤ d.length := Nat.le_of_not_lt hl
    have happ := answers_append req d z hl'
    by_cases ha : Answers req d
    · rw [sanityCheck_of_answers o req (d ++ z) d.length f n hl' (happ.mpr ha), returnCode_append o d z hl',
        plLength_append d z hl', if_neg (not_or.mpr ⟨hl, not_not.mpr ha⟩)]
      split_ifs
      · rfl
      · rfl
      · rfl
    · rw [sanityCheck_of_not_answers o req (d ++ z) d.length f n (mt happ.mp ha), if_pos (Or.inr ha)]
      rfl

theorem sanityCheck_zeros (o : ByteOrder) (req : Bytes) (k len : ℕ) (f : Bool) (n : ℕ) :
    sanityCheckMctpRsp o req (zeros k) len f n = -1 :=
  sanityCheck_of_not_answers o req (zeros k) len f n (not_answers_zeros req k)

/-! ### Reports -/

/- All that a layer can say: it does not answer, it carries a return code, or its
length decides. -/
theorem cciReport_cases (o : ByteOrder) (req m : Bytes) (f : Bool) (n : ℕ) :
    (¬(12 ≤ m.length ∧ Answers req m) ∧ cciReport o req m f n = .failed) ∨
      (12 ≤ m.length ∧ Answers req m ∧ returnCode o m ≠ 0 ∧ cciReport o req m f n = .code (returnCode o m)) ∨
      (12 ≤ m.length ∧ Answers req m ∧ returnCode o m = 0 ∧
        cciReport o req m f n =
          if LengthOk f n m.length ∧ m.length - 12 = plLength m then .ok else .failed) := by
  unfold cciReport
  by_cases h1 : m.length < 12 ∨ ¬Answers req m
  · refine Or.inl ⟨fun ⟨hl, ha⟩ => ?_, if_pos h1⟩
    rcases h1 with h1 | h1
    · omega
    · exact h1 ha
  · rw [if_neg h1]
    push Not at h1
    by_cases h2 : returnCode o m = 0
    · exact Or.inr (Or.inr ⟨h1.1, h1.2, h2, if_neg (not_not.mpr h2)⟩)
    · exact Or.inr (Or.inl ⟨h1.1, h1.2, h2, if_pos h2⟩)

theorem cciReport_eq_ok (o : ByteOrder) (req m : Bytes) (f : Bool) (n : ℕ) :
    cciReport o req m f n = .ok ↔
      12 ≤ m.length ∧ Answers req m ∧ returnCode o m = 0 ∧ LengthOk f n m.length ∧
        m.length - 12 = plLength m := by
  rcases cciReport_cases o req m f n with ⟨hno, hr⟩ | ⟨-, -, hcode, hr⟩ | ⟨hl, ha, hcode, hr⟩
  · rw [hr]
    exact iff_of_false Report.noConfusion fun h => hno ⟨h.1, h.2.1⟩
  · rw [hr]
    exact iff_of_false Report.noConfusion fun h => hcode h.2.2.1
  · rw [hr]
    split_ifs with hlen
    · exact iff_of_true rfl ⟨hl, ha, hcode, hlen⟩
    · exact iff_of_false not_false fun h => hlen h.2.2.2

theorem cciReport_eq_code (o : ByteOrder) (req m : Bytes) (f : Bool) (n c : ℕ) :
    cciReport o req m f n = .code c ↔
      12 ≤ m.length ∧ Answers req m ∧ returnCode o m ≠ 0 ∧ c = returnCode o m := by
  rcases cciReport_cases o req m f n with ⟨hno, hr⟩ | ⟨hl, ha, hcode, hr⟩ | ⟨-, -, hcode, hr⟩
  · rw [hr]
    exact iff_of_false Report.noConfusion fun h => hno ⟨h.1, h.2.1⟩
  · rw [hr, Report.code.injEq]
    exact ⟨fun h => ⟨hl, ha, hcode, h.symm⟩, fun h => h.2.2.2.symm⟩
  · rw [hr]
    refine iff_of_false ?_ fun h => h.2.2.1 hcode
    split_ifs
    · exact not_false
    · exact not_false

theorem cciReport_ne_failed_answers (o : ByteOrder) (req m : Bytes) (f : Bool) (n : ℕ)
    (h : cciReport o req m f n ≠ .failed) : 12 ≤ m.length ∧ Answers req m := by
  rcases cciReport_cases o req m f n with ⟨-, hr⟩ | ⟨hl, ha, -⟩ | ⟨hl, ha, -⟩
  · exact absurd hr h
  · exact ⟨hl, ha⟩
  · exact ⟨hl, ha⟩

/-! ### Judging a stack of layers -/

theorem judge_cons (r : Report) (rs : List Report) (h : r ≠ .ok) : judge (r :: rs) = r.rc := by
  cases r with
  | ok => exact absurd rfl h
  | failed => rfl
  | code c => rfl

theorem judge_singleton (r : Report) : judge [r] = r.rc := by
  cases r <;> rfl

theorem judge_range (rs : List Report) : judge rs = -1 ∨ 0 ≤ judge rs := by
  induction rs with
  | nil => exact Or.inr (Int.le_refl 0)
  | cons r rs ih =>
    cases r with
    | ok => exact ih
    | failed => exact Or.inl rfl
    | code c => exact Or.inr (Int.natCast_nonneg c)

end LibCxlmi.Cci
