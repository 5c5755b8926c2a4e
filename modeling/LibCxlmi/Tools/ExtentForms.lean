import LibCxlmi.Tools.ExtentArgs

/-!
# The form of an extent

What `dcd_parse_extent_arg` takes, against the form `dpa:len[:tag[:seq]]` it is meant for.
-/

namespace LibCxlmi.Tools
open LibCxlmi.Word LibCxlmi.Text

/-- A literal of at most 64 bits. -/
def U64Literal (a : List Char) (n : ℕ) : Prop := IntLiteral a n ∧ n < 2 ^ 64

inductive ExtentForm : List Char → ExtentArg → Prop where
  | plain (a b : List Char) (dpa len : ℕ) : U64Literal a dpa → U64Literal b len →
      ExtentForm (a ++ ':' :: b) ⟨dpa, len, zeros 16, 0⟩
  | tagged (a b t : List Char) (dpa len : ℕ) (tag : Bytes) : U64Literal a dpa → U64Literal b len → TagText t tag →
      ExtentForm (a ++ ':' :: (b ++ ':' :: t)) ⟨dpa, len, tag, 0⟩
  | sequenced (a b t c : List Char) (dpa len : ℕ) (tag : Bytes) (seq : ℕ) : U64Literal a dpa → U64Literal b len →
      TagText t tag → IntLiteral c seq → seq < 2 ^ 16 →
      ExtentForm (a ++ ':' :: (b ++ ':' :: (t ++ ':' :: c))) ⟨dpa, len, tag, seq⟩

/-- The tail says nothing beyond what is taken from it. -/
def ExtentTail.Clean : ExtentTail → Prop
  | .other rest => rest = []
  | .tagged _ => True
  | .sequenced _ c => StartsDigit c ∧ ∃ n < 2 ^ 16, numeral (String.ofList c) = some (false, n, [])

/-- The numbers start with a digit and are in range, and the tail is clean. -/
structure CleanReading (s : String) (n₁ : ℕ) (p : List Char) (n₂ : ℕ) (tail : ExtentTail) : Prop where
  dpaDigit : StartsDigit s.toList
  dpaLt : n₁ < 2 ^ 64
  lenDigit : StartsDigit p
  lenLt : n₂ < 2 ^ 64
  tail : tail.Clean

/-! ### Forms are taken -/

theorem stops_colon (rest : List Char) : Stops (':' :: rest) := stops_cons ':' rest (by decide)

theorem reading_of_literals (s : String) (a b : List Char) (dpa len : ℕ) (tail : ExtentTail)
    (hs : s.toList = a ++ ':' :: (b ++ tail.text)) (ha : IntLiteral a dpa) (hb : IntLiteral b len)
    (hstop : Stops tail.text) : ExtentReading s false dpa (b ++ tail.text) false len tail :=
  ⟨numeral_literal s a _ dpa hs ha (stops_colon _), numeral_literal _ b tail.text len String.toList_ofList hb hstop⟩

theorem cleanReading_of_literals (s : String) (a b : List Char) (dpa len : ℕ) (tail : ExtentTail)
    (hs : s.toList = a ++ ':' :: (b ++ tail.text)) (ha : U64Literal a dpa) (hb : U64Literal b len)
    (htail : tail.Clean) :
    CleanReading s dpa (b ++ tail.text) len tail :=
  ⟨hs ▸ ha.1.startsDigit _, ha.2, hb.1.startsDigit _, hb.2, htail⟩

/-- A text of the form is read as what it says. -/
theorem ExtentForm.reading (s : String) (v : ExtentArg) (h : ExtentForm s.toList v) :
    ∃ p tail, ExtentReading s false v.startDpa p false v.len tail ∧ tail.Gives v.tag v.sharedSeq ∧
      CleanReading s v.startDpa p v.len tail := by
  generalize hs : s.toList = text at h
  cases h with
  | plain a b dpa len ha hb =>
    have htext : s.toList = a ++ ':' :: (b ++ (ExtentTail.other []).text) := by
      rw [hs]
      exact congrArg (fun l => a ++ ':' :: l) (List.append_nil b).symm
    exact ⟨_, .other [], reading_of_literals s a b dpa len _ htext ha.1 hb.1 stops_nil, ⟨by simp, rfl, rfl⟩,
      cleanReading_of_literals s a b dpa len _ htext ha hb rfl⟩
  | tagged a b t dpa len tag ha hb ht =>
    have htext : s.toList = a ++ ':' :: (b ++ (ExtentTail.tagged t).text) := hs
    exact ⟨_, .tagged t, reading_of_literals s a b dpa len _ htext ha.1 hb.1 (stops_colon t), ⟨ht, rfl⟩,
      cleanReading_of_literals s a b dpa len _ htext ha hb trivial⟩
  | sequenced a b t c dpa len tag seq ha hb ht hc hseq =>
    have htext : s.toList = a ++ ':' :: (b ++ (ExtentTail.sequenced t c).text) := hs
    have hnum : numeral (String.ofList c) = some (false, seq, []) :=
      numeral_literal _ c [] seq (by rw [String.toList_ofList, List.append_nil]) hc stops_nil
    have hval : seq = signedValue false seq % 2 ^ 16 := by
      rw [signedValue_plain seq (by omega), Nat.mod_eq_of_lt hseq]
    have hdigit : StartsDigit c := by
      have h := hc.startsDigit []
      rwa [List.append_nil] at h
    exact ⟨_, .sequenced t c, reading_of_literals s a b dpa len _ htext ha.1 hb.1 (stops_colon _),
      ⟨ht, false, seq, [], hnum, hval⟩,
      cleanReading_of_literals s a b dpa len _ htext ha hb ⟨hdigit, seq, hseq, hnum⟩⟩

theorem ExtentForm.parse (s : String) (v : ExtentArg) (h : ExtentForm s.toList v) : dcdParseExtentArg s = some v := by
  obtain ⟨p, tail, hread, hgives, hclean⟩ := h.reading
  refine (dcdParseExtentArg_iff s v).mpr ⟨_, _, p, _, _, tail, v.tag, v.sharedSeq, hread, hgives, ?_⟩
  rw [signedValue_plain _ hclean.dpaLt, signedValue_plain _ hclean.lenLt]

/-! ### Clean readings are of the form -/

theorem form_of_clean (s : String) (neg₁ : Bool) (n₁ : ℕ) (p : List Char) (neg₂ : Bool) (n₂ : ℕ) (tail : ExtentTail)
    (tag : Bytes) (seq : ℕ) (hread : ExtentReading s neg₁ n₁ p neg₂ n₂ tail) (hgives : tail.Gives tag seq)
    (hclean : CleanReading s n₁ p n₂ tail) :
    ExtentForm s.toList ⟨signedValue neg₁ n₁, signedValue neg₂ n₂, tag, seq⟩ := by
  obtain ⟨rfl, a, hs, ha⟩ := literal_of_numeral s neg₁ n₁ _ hclean.dpaDigit hread.dpa
  obtain ⟨rfl, b, hp, hb⟩ := literal_of_numeral _ neg₂ n₂ _ (String.toList_ofList ▸ hclean.lenDigit) hread.len
  rw [String.toList_ofList] at hp
  rw [signedValue_plain n₁ hclean.dpaLt, signedValue_plain n₂ hclean.lenLt, hs, hp]
  have hdpa : U64Literal a n₁ := ⟨ha, hclean.dpaLt⟩
  have hlen : U64Literal b n₂ := ⟨hb, hclean.lenLt⟩
  have htail := hclean.tail
  cases tail with
  | other rest =>
    obtain ⟨-, rfl, rfl⟩ := hgives
    obtain rfl : rest = [] := htail
    show ExtentForm (a ++ ':' :: (b ++ [])) _
    rw [List.append_nil]
    exact .plain a b n₁ n₂ hdpa hlen
  | tagged t =>
    obtain ⟨ht, rfl⟩ := hgives
    exact .tagged a b t n₁ n₂ tag hdpa hlen ht
  | sequenced t c =>
    obtain ⟨ht, neg, n, rest, hnum, rfl⟩ := hgives
    obtain ⟨hdigit, m, hm, hnum'⟩ := htail
    obtain ⟨rfl, rfl, rfl⟩ : neg = false ∧ n = m ∧ rest = [] := by
      rw [hnum] at hnum'
      simpa using hnum'
    obtain ⟨-, ds, hc, hds⟩ := literal_of_numeral _ false n [] (String.toList_ofList ▸ hdigit) hnum
    rw [String.toList_ofList, List.append_nil] at hc
    rw [signedValue_plain n (by omega), Nat.mod_eq_of_lt hm]
    exact .sequenced a b t c n₁ n₂ tag n hdpa hlen ht (hc ▸ hds) hm

/-- A text has one reading. -/
theorem ExtentTail.text_injective {tail tail' : ExtentTail} {tag tag' : Bytes} {seq seq' : ℕ} (h : tail.Gives tag seq)
    (h' : tail'.Gives tag' seq') (heq : tail.text = tail'.text) : tail = tail' := by
  cases tail with
  | other rest =>
    cases tail' with
    | other rest' => exact congrArg ExtentTail.other heq
    | tagged t' => exact absurd (congrArg List.head? heq) h.1
    | sequenced t' c' => exact absurd (congrArg List.head? heq) h.1
  | tagged t =>
    cases tail' with
    | other rest' => exact absurd (congrArg List.head? heq).symm h'.1
    | tagged t' => exact congrArg ExtentTail.tagged (List.cons.inj heq).2
    | sequenced t' c' =>
      have ht : t = t' ++ ':' :: c' := (List.cons.inj heq).2
      exact absurd (by rw [ht]; simp) h.1.colon_notMem
  | sequenced t c =>
    cases tail' with
    | other rest' => exact absurd (congrArg List.head? heq).symm h'.1
    | tagged t' =>
      have ht : t ++ ':' :: c = t' := (List.cons.inj heq).2
      exact absurd (by rw [← ht]; simp) h'.1.colon_notMem
    | sequenced t' c' =>
      have htext : t ++ ':' :: c = t' ++ ':' :: c' := (List.cons.inj heq).2
      obtain ⟨htake, hdrop⟩ := takeWhile_field t c h.1.colon_notMem
      obtain ⟨htake', hdrop'⟩ := takeWhile_field t' c' h'.1.colon_notMem
      rw [htext] at htake hdrop
      obtain rfl : t = t' := htake.symm.trans htake'
      obtain rfl : c = c' := (List.cons.inj (hdrop.symm.trans hdrop')).2
      rfl

/-! ### The whole argument -/

/-- The parser takes the form and nothing else, with the values it has, and agrees with
the other one where there are two numbers only. -/
structure ExtentArgument (s : String) : Prop where
  accepts : ∀ v, dcdParseExtentArg s = some v ↔ ExtentForm s.toList v
  agrees : ∀ a b dpa len, s.toList = a ++ ':' :: b → IntLiteral a dpa → IntLiteral b len →
    (dcdParseExtentArg s).map (fun v => (v.startDpa, v.len)) = dcParseExtent s

/-- Whatever the parser can read the text as is clean. -/
def CleanExtent (s : String) : Prop :=
  ∀ neg₁ n₁ p neg₂ n₂ tail tag seq, ExtentReading s neg₁ n₁ p neg₂ n₂ tail → ExtentTail.Gives tail tag seq →
    CleanReading s n₁ p n₂ tail

theorem clean_of_accepts (s : String) (h : ∀ v, dcdParseExtentArg s = some v → ExtentForm s.toList v) :
    CleanExtent s := by
  intro neg₁ n₁ p neg₂ n₂ tail tag seq hread hgives
  have hform := h _ ((dcdParseExtentArg_iff s _).mpr ⟨neg₁, n₁, p, neg₂, n₂, tail, tag, seq, hread, hgives, rfl⟩)
  obtain ⟨p', tail', hread', hgives', hclean⟩ := hform.reading
  have hdpa := hread.dpa.symm.trans hread'.dpa
  simp only [Option.some.injEq, Prod.mk.injEq, List.cons.injEq, true_and] at hdpa
  obtain ⟨-, hn₁, rfl⟩ := hdpa
  have hlen := hread.len.symm.trans hread'.len
  simp only [Option.some.injEq, Prod.mk.injEq] at hlen
  obtain ⟨-, hn₂, htext⟩ := hlen
  obtain rfl := ExtentTail.text_injective hgives hgives' htext
  rw [hn₁, hn₂]
  exact hclean

theorem parsers_agree (s : String) (a b : List Char) (dpa len : ℕ) (hs : s.toList = a ++ ':' :: b)
    (ha : IntLiteral a dpa) (hb : IntLiteral b len) :
    (dcdParseExtentArg s).map (fun v => (v.startDpa, v.len)) = dcParseExtent s := by
  have hdpa : convert s.toList = some (signedValue false dpa, ':' :: b) := by
    rw [convert_eq_some_iff, String.ofList_toList]
    exact ⟨false, dpa, numeral_literal s a _ dpa hs ha (stops_colon b), rfl⟩
  have hlen : convert b = some (signedValue false len, []) := by
    rw [convert_eq_some_iff]
    exact ⟨false, len, numeral_literal _ b [] len (by rw [String.toList_ofList, List.append_nil]) hb stops_nil, rfl⟩
  simp only [dcdParseExtentArg, dcParseExtent, hdpa, hlen, Option.bind_some, if_true,
    dcdParseExtentTail_other _ _ [] (by simp), Option.map_some]

/-- For every string: the parser does right by it if whatever it can be read as has its
numbers at once and in range, and nothing behind them. -/
theorem extent_argument_iff (s : String) : ExtentArgument s ↔ CleanExtent s := by
  constructor
  · intro h
    exact clean_of_accepts s fun v hv => (h.accepts v).mp hv
  · intro h
    refine ⟨?_, parsers_agree s⟩
    intro v
    constructor
    · intro hv
      obtain ⟨neg₁, n₁, p, neg₂, n₂, tail, tag, seq, hread, hgives, rfl⟩ := (dcdParseExtentArg_iff s v).mp hv
      exact form_of_clean s neg₁ n₁ p neg₂ n₂ tail tag seq hread hgives (h _ _ _ _ _ _ _ _ hread hgives)
    · exact ExtentForm.parse s v

/-- What stands behind the length is taken for nothing. -/
theorem extent_with_a_tail : dcdParseExtentArg "1:2x" = some ⟨1, 2, zeros 16, 0⟩ ∧ dcParseExtent "1:2x" = none ∧
    ¬ ExtentArgument "1:2x" := by
  refine ⟨by decide, by decide, ?_⟩
  intro h
  have hclean := clean_of_accepts "1:2x" fun v hv => (h.accepts v).mp hv
  have hread : ExtentReading "1:2x" false 1 ['2', 'x'] false 2 (.other ['x']) := ⟨by decide, by decide⟩
  have hother := (hclean _ _ _ _ _ _ (zeros 16) 0 hread ⟨by decide, rfl, rfl⟩).tail
  cases hother

end LibCxlmi.Tools
