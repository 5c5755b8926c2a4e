import LibCxlmi.Tools.TunnelArgs

/-!
# The target that tunnel options name (tools/mctp-cci/util.c:27-99)

A tunnel leads to a switch port, a logical device, a logical device behind a switch
port, or the pool of a multi-headed device. Options of different kinds are refused
together, but a port and a logical device are one kind, and of several options of a
kind the last one stays.
-/

namespace LibCxlmi.Tools
open LibCxlmi.Text LibCxlmi.Cci

inductive TunnelTarget where
  | port (n : ℤ)
  | ld (n : ℤ)
  | portAndLd (n m : ℤ)
  | mhd
  deriving DecidableEq, Repr

/-- The tunnel to a target, as libcxlmi.h defines them. -/
def TunnelTarget.info : TunnelTarget → TunnelInfo
  | .port n => ⟨n, -1, 1, false⟩
  | .ld n => ⟨-1, n, 1, false⟩
  | .portAndLd n m => ⟨n, m, 2, false⟩
  | .mhd => ⟨-1, -1, 1, true⟩

/-- main's `ti` before the options. -/
def noTunnel : TunnelInfo := ⟨-1, -1, 0, false⟩

/-- The values are numbers, with nothing behind them, and the target has them. -/
def TunnelOption.Names : TunnelOption → TunnelTarget → Prop
  | .port v, .port n => IntText v.toList n
  | .ld v, .ld n => IntText v.toList n
  | .portAndLd v, .portAndLd n m => ∃ a b, v.toList = a ++ ',' :: b ∧ ',' ∉ a ∧ IntText a n ∧ IntText b m
  | .mhd, .mhd => True
  | _, _ => False

/-- If the arguments are accepted, those left are the others in their order, and the
tunnel is to the one target that all the options name; there is none without options. -/
def TunnelArgsRight (overflow : ℤ → ℤ) (argv : List String) : Prop :=
  ∀ rest ti, parseTunnelArgs overflow argv noTunnel = some (rest, ti) → ∃ os, TunnelSplit argv os rest ∧
    ((os = [] ∧ ti = noTunnel) ∨ (os ≠ [] ∧ ∃ t, (∀ o ∈ os, o.Names t) ∧ ti = t.info))

/-! ### The tunnel of the last option -/

theorem take_names (overflow : ℤ → ℤ) (s : TunnelVars) (o : TunnelOption) (t : TunnelTarget) (h : o.Names t) :
    (s.take overflow o).ti = t.info := by
  cases o with
  | port v =>
    cases t with
    | port n => simp only [TunnelVars.take, TunnelTarget.info, atoi_intText overflow v.toList n h]
    | _ => exact h.elim
  | ld v =>
    cases t with
    | ld n => simp only [TunnelVars.take, TunnelTarget.info, atoi_intText overflow v.toList n h]
    | _ => exact h.elim
  | portAndLd v =>
    cases t with
    | portAndLd n m =>
      obtain ⟨a, b, hv, hcomma, hport, hld⟩ := h
      have hall : ∀ c ∈ a, decide (c ≠ ',') = true := by
        intro c hc
        exact decide_eq_true fun heq => hcomma (heq ▸ hc)
      have hfirst : v.toList.takeWhile (· ≠ ',') = a := by
        rw [hv, List.takeWhile_append_of_pos hall]
        simp
      have hsecond : (v.toList.dropWhile (· ≠ ',')).tail = b := by
        rw [hv, List.dropWhile_append_of_pos hall]
        simp
      simp only [TunnelVars.take, TunnelTarget.info, hfirst, hsecond, atoi_intText overflow a n hport,
        atoi_intText overflow b m hld]
    | _ => exact h.elim
  | mhd =>
    cases t with
    | mhd => rfl
    | _ => exact h.elim

theorem foldl_names (overflow : ℤ → ℤ) (s : TunnelVars) (os : List TunnelOption) (t : TunnelTarget)
    (h : ∀ o ∈ os, o.Names t) (hne : os ≠ []) : (os.foldl (TunnelVars.take overflow) s).ti = t.info := by
  induction os generalizing s with
  | nil => exact absurd rfl hne
  | cons o os ih =>
    obtain ⟨ho, hos⟩ := List.forall_mem_cons.mp h
    cases os with
    | nil => exact take_names overflow s o t ho
    | cons o' os => exact ih (s.take overflow o) hos (List.cons_ne_nil o' os)

/-! ### Kinds of options -/

inductive TunnelKind where
  | portOrLd
  | combo
  | mhd
  deriving DecidableEq, Repr

def TunnelOption.kind : TunnelOption → TunnelKind
  | .port _ => .portOrLd
  | .ld _ => .portOrLd
  | .portAndLd _ => .combo
  | .mhd => .mhd

/-- The options are of one kind, whatever their number. -/
def OneKind (os : List TunnelOption) : Prop := ∀ o ∈ os, ∀ o' ∈ os, o.kind = o'.kind

/- The flags tell which kinds have been seen. -/
def TunnelVars.seen (s : TunnelVars) : TunnelKind → Bool
  | .portOrLd => s.seenPort || s.seenLd
  | .combo => s.seenCombo
  | .mhd => s.seenMhd

theorem take_seen (overflow : ℤ → ℤ) (s : TunnelVars) (o : TunnelOption) (k : TunnelKind) :
    (s.take overflow o).seen k = (s.seen k || o.kind == k) := by
  cases o <;> cases k <;> simp [TunnelVars.take, TunnelVars.seen, TunnelOption.kind]

theorem foldl_seen (overflow : ℤ → ℤ) (s : TunnelVars) (os : List TunnelOption) (k : TunnelKind) :
    (os.foldl (TunnelVars.take overflow) s).seen k = (s.seen k || os.any fun o => o.kind == k) := by
  induction os generalizing s with
  | nil => rw [List.foldl_nil, List.any_nil, Bool.or_false]
  | cons o os ih => rw [List.foldl_cons, ih, take_seen, List.any_cons, Bool.or_assoc]

theorem conflict_iff (s : TunnelVars) :
    s.conflict = true ↔ ∃ k k', k ≠ k' ∧ s.seen k = true ∧ s.seen k' = true := by
  constructor
  · intro h
    simp only [TunnelVars.conflict, Bool.or_eq_true, Bool.and_eq_true] at h
    rcases h with ⟨hcombo, hdirect⟩ | ⟨hmhd, hdirect | hcombo⟩
    · exact ⟨.combo, .portOrLd, by decide, hcombo, (Bool.or_eq_true ..).mpr hdirect⟩
    · exact ⟨.mhd, .portOrLd, by decide, hmhd, (Bool.or_eq_true ..).mpr hdirect⟩
    · exact ⟨.mhd, .combo, by decide, hmhd, hcombo⟩
  · intro h
    obtain ⟨k, k', hne, hk, hk'⟩ := h
    cases k <;> cases k' <;> simp_all [TunnelVars.conflict, TunnelVars.seen]

theorem conflict_foldl_iff (overflow : ℤ → ℤ) (ti : TunnelInfo) (os : List TunnelOption) :
    (os.foldl (TunnelVars.take overflow) ⟨ti, false, false, false, false⟩).conflict = true ↔ ¬OneKind os := by
  have hseen : ∀ k, (os.foldl (TunnelVars.take overflow) ⟨ti, false, false, false, false⟩).seen k = true ↔
      ∃ o ∈ os, o.kind = k := by
    intro k
    rw [foldl_seen, Bool.or_eq_true, List.any_eq_true]
    simp only [beq_iff_eq]
    refine or_iff_right ?_
    cases k <;> exact Bool.false_ne_true
  rw [conflict_iff]
  simp only [hseen, OneKind]
  constructor
  · intro h hone
    obtain ⟨k, k', hne, ⟨o, ho, rfl⟩, o', ho', rfl⟩ := h
    exact hne (hone o ho o' ho')
  · intro h
    push Not at h
    obtain ⟨o, ho, o', ho', hne⟩ := h
    exact ⟨o.kind, o'.kind, hne, ⟨o, ho, rfl⟩, o', ho', rfl⟩

/-! ### The parser -/

theorem parseTunnelArgs_of_split (overflow : ℤ → ℤ) {argv : List String} {os : List TunnelOption} {rest : List String}
    (hsplit : TunnelSplit argv os rest) (hcomma : ∀ o ∈ os, o.HasComma) (ti : TunnelInfo) :
    parseTunnelArgs overflow argv ti =
      if (os.foldl (TunnelVars.take overflow) ⟨ti, false, false, false, false⟩).conflict = true then none
      else some (rest, (os.foldl (TunnelVars.take overflow) ⟨ti, false, false, false, false⟩).ti) := by
  obtain ⟨s', hloop, hrest, hvars⟩ := @tunnelLoop_of_split overflow _ _ _ _ _ hsplit hcomma argv.length (Nat.le_refl _)
    (TunnelScan.At.start argv ⟨ti, false, false, false, false⟩)
  rw [List.length_nil] at hloop
  rw [List.take_zero, List.nil_append] at hrest
  rw [parseTunnelArgs, hloop, Option.bind_some, hrest, hvars]

theorem split_of_parseTunnelArgs (overflow : ℤ → ℤ) {argv rest : List String} {ti ti' : TunnelInfo}
    (h : parseTunnelArgs overflow argv ti = some (rest, ti')) :
    ∃ os, TunnelSplit argv os rest ∧ (∀ o ∈ os, o.HasComma) ∧ OneKind os ∧
      ti' = (os.foldl (TunnelVars.take overflow) ⟨ti, false, false, false, false⟩).ti := by
  obtain ⟨s', hloop, -⟩ := Option.bind_eq_some_iff.mp h
  obtain ⟨os, rest', hsplit, hcomma⟩ :=
    split_of_tunnelLoop argv.length (Nat.le_refl _) (TunnelScan.At.start argv _) hloop
  rw [parseTunnelArgs_of_split overflow hsplit hcomma] at h
  split_ifs at h with hconflict
  obtain ⟨rfl, rfl⟩ := Prod.mk.inj (Option.some.inj h)
  rw [conflict_foldl_iff, not_not] at hconflict
  exact ⟨os, hsplit, hcomma, hconflict, rfl⟩

/-- The tunnel is right if options of one kind, each with its value, name one target. -/
theorem tunnel_arguments_iff (overflow : ℤ → ℤ) (argv : List String) :
    TunnelArgsRight overflow argv ↔ ∀ os rest, TunnelSplit argv os rest → (∀ o ∈ os, o.HasComma) → OneKind os →
      ∃ t : TunnelTarget, ∀ o ∈ os, o.Names t := by
  constructor
  · intro h os rest hsplit hcomma hone
    have hparse := parseTunnelArgs_of_split overflow hsplit hcomma noTunnel
    rw [if_neg (mt (conflict_foldl_iff overflow noTunnel os).mp (not_not.mpr hone))] at hparse
    obtain ⟨os', hsplit', hnames⟩ := h rest _ hparse
    obtain ⟨rfl, -⟩ := hsplit.unique hsplit'
    rcases hnames with ⟨rfl, -⟩ | ⟨-, t, ht, -⟩
    · exact ⟨.mhd, List.forall_mem_nil _⟩
    · exact ⟨t, ht⟩
  · intro h rest ti hparse
    obtain ⟨os, hsplit, hcomma, hone, rfl⟩ := split_of_parseTunnelArgs overflow hparse
    obtain ⟨t, ht⟩ := h os rest hsplit hcomma hone
    refine ⟨os, hsplit, ?_⟩
    by_cases hne : os = []
    · rw [hne]
      exact Or.inl ⟨rfl, rfl⟩
    · exact Or.inr ⟨hne, t, ht, foldl_names overflow _ os t ht hne⟩

/-- A logical device takes the place of a port. -/
theorem port_then_ld : ¬TunnelArgsRight (fun _ => -1) ["--tunnel-port", "1", "--tunnel-ld", "2", "show"] := by
  intro h
  have hparse : parseTunnelArgs (fun _ => -1) ["--tunnel-port", "1", "--tunnel-ld", "2", "show"] noTunnel =
    some (["show"], ⟨-1, 2, 1, false⟩) := by decide
  have hsplit : TunnelSplit ["--tunnel-port", "1", "--tunnel-ld", "2", "show"] [.port "1", .ld "2"] ["show"] :=
    .option (.port "1") (.option (.ld "2") (.other (by decide) .nil))
  obtain ⟨os, hos, hnames⟩ := h _ _ hparse
  obtain ⟨rfl, -⟩ := hsplit.unique hos
  rcases hnames with ⟨hnil, -⟩ | ⟨-, t, ht, -⟩
  · cases hnil
  · have hport := ht (.port "1") (by decide)
    have hld := ht (.ld "2") (by decide)
    cases t with
    | port n => exact hld
    | _ => exact hport

end LibCxlmi.Tools
