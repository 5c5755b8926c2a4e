import LibCxlmi.Cci.Tunnel
import LibCxlmi.Text.Strtoul

/-!
# Tunnel options of mctp-cci (tools/mctp-cci/util.c:27-99)

`parse_tunnel_args` takes the tunnel options out of the argument vector, moving what
stays to the front of it, and remembers the target they name. Which options may stand
together is checked after the loop, by the names that were seen.
-/

namespace LibCxlmi.Tools
open LibCxlmi.Text LibCxlmi.Cci

/-! ### The options -/

inductive TunnelOption where
  | port (v : String)
  | ld (v : String)
  | portAndLd (v : String)
  | mhd
  deriving DecidableEq, Repr

def TunnelOption.words : TunnelOption → List String
  | .port v => ["--tunnel-port", v]
  | .ld v => ["--tunnel-ld", v]
  | .portAndLd v => ["--port-and-ld", v]
  | .mhd => ["--tunnel-mhd"]

def tunnelNames : List String := ["--tunnel-port", "--tunnel-ld", "--port-and-ld", "--tunnel-mhd"]

/-- The variables that the options change. -/
structure TunnelVars where
  ti : TunnelInfo
  seenPort : Bool
  seenLd : Bool
  seenCombo : Bool
  seenMhd : Bool
  deriving DecidableEq, Repr

/- The first comma ends the port. -/
def TunnelVars.take (overflow : ℤ → ℤ) (s : TunnelVars) : TunnelOption → TunnelVars
  | .port v => { s with ti := ⟨atoi overflow v.toList, -1, 1, false⟩, seenPort := true }
  | .ld v => { s with ti := ⟨-1, atoi overflow v.toList, 1, false⟩, seenLd := true }
  | .portAndLd v =>
      { s with
        ti :=
          ⟨atoi overflow (v.toList.takeWhile (· ≠ ',')), atoi overflow (v.toList.dropWhile (· ≠ ',')).tail, 2, false⟩
        seenCombo := true }
  | .mhd => { s with ti := ⟨-1, -1, 1, true⟩, seenMhd := true }

/-! ### The loop -/

structure TunnelScan where
  argv : List String
  j : ℕ
  vars : TunnelVars

def TunnelScan.keep (s : TunnelScan) (arg : String) : TunnelScan := { s with argv := s.argv.set s.j arg, j := s.j + 1 }

/- The string at the comma is cut in two, but its cell is given up. Each round moves on
by one argument at least, so `argc` rounds are enough. -/
def tunnelLoop (overflow : ℤ → ℤ) : ℕ → ℕ → TunnelScan → Option TunnelScan
  | 0, _, s => some s
  | rounds + 1, i, s =>
      s.argv[i]?.elim (some s) fun arg =>
        if arg = "--tunnel-port" then
          s.argv[i + 1]?.bind fun v =>
            tunnelLoop overflow rounds (i + 2) { s with vars := s.vars.take overflow (.port v) }
        else if arg = "--tunnel-ld" then
          s.argv[i + 1]?.bind fun v =>
            tunnelLoop overflow rounds (i + 2) { s with vars := s.vars.take overflow (.ld v) }
        else if arg = "--port-and-ld" then
          s.argv[i + 1]?.bind fun v =>
            if ',' ∈ v.toList then
              tunnelLoop overflow rounds (i + 2) { s with vars := s.vars.take overflow (.portAndLd v) }
            else none
        else if arg = "--tunnel-mhd" then
          tunnelLoop overflow rounds (i + 1) { s with vars := s.vars.take overflow .mhd }
        else tunnelLoop overflow rounds (i + 1) (s.keep arg)

def TunnelVars.conflict (s : TunnelVars) : Bool :=
  (s.seenCombo && (s.seenPort || s.seenLd)) || (s.seenMhd && (s.seenPort || s.seenLd || s.seenCombo))

/-- The arguments that are left, and the tunnel. -/
def parseTunnelArgs (overflow : ℤ → ℤ) (argv : List String) (ti : TunnelInfo) : Option (List String × TunnelInfo) :=
  (tunnelLoop overflow argv.length 0 ⟨argv, 0, ⟨ti, false, false, false, false⟩⟩).bind fun s =>
    if s.vars.conflict = true then none else some (s.argv.take s.j, s.vars.ti)

/-! ### Arguments apart from the options -/

/-- The arguments are these options, and the others in their order. -/
inductive TunnelSplit : List String → List TunnelOption → List String → Prop
  | nil : TunnelSplit [] [] []
  | option (o : TunnelOption) {args : List String} {os : List TunnelOption} {rest : List String} :
      TunnelSplit args os rest → TunnelSplit (o.words ++ args) (o :: os) rest
  | other {arg : String} (h : arg ∉ tunnelNames) {args : List String} {os : List TunnelOption} {rest : List String} :
      TunnelSplit args os rest → TunnelSplit (arg :: args) os (arg :: rest)

theorem words_head_mem (o : TunnelOption) (args : List String) : ∃ x l, o.words ++ args = x :: l ∧ x ∈ tunnelNames := by
  cases o with
  | port v => exact ⟨_, _, rfl, by decide⟩
  | ld v => exact ⟨_, _, rfl, by decide⟩
  | portAndLd v => exact ⟨_, _, rfl, by decide⟩
  | mhd => exact ⟨_, _, rfl, by decide⟩

theorem words_append_inj (o o' : TunnelOption) (l l' : List String) (h : o.words ++ l = o'.words ++ l') :
    o = o' ∧ l = l' := by
  cases o <;> cases o' <;> simp_all [TunnelOption.words]

theorem TunnelSplit.unique {args : List String} {os os' : List TunnelOption} {rest rest' : List String}
    (h : TunnelSplit args os rest) (h' : TunnelSplit args os' rest') : os = os' ∧ rest = rest' := by
  induction h generalizing os' rest' with
  | nil =>
    generalize hargs : ([] : List String) = args at h'
    cases h' with
    | nil => exact ⟨rfl, rfl⟩
    | option o' _ =>
      obtain ⟨x, l, heq, -⟩ := words_head_mem o' _
      rw [heq] at hargs
      cases hargs
    | other _ _ => cases hargs
  | @option o args os rest _ ih =>
    generalize hargs : o.words ++ args = all at h'
    cases h' with
    | nil =>
      obtain ⟨x, l, heq, -⟩ := words_head_mem o args
      rw [heq] at hargs
      cases hargs
    | option o' h' =>
      obtain ⟨rfl, rfl⟩ := words_append_inj _ _ _ _ hargs
      obtain ⟨rfl, rfl⟩ := ih h'
      exact ⟨rfl, rfl⟩
    | other hx _ =>
      obtain ⟨x, l, heq, hmem⟩ := words_head_mem o args
      rw [heq] at hargs
      obtain ⟨rfl, -⟩ := List.cons.inj hargs
      exact absurd hmem hx
  | @other arg hx args os rest _ ih =>
    generalize hargs : arg :: args = all at h'
    cases h' with
    | nil => cases hargs
    | option o' _ =>
      obtain ⟨x, l, heq, hmem⟩ := words_head_mem o' _
      rw [heq] at hargs
      obtain ⟨rfl, -⟩ := List.cons.inj hargs
      exact absurd hmem hx
    | other _ h' =>
      obtain ⟨rfl, rfl⟩ := List.cons.inj hargs
      obtain ⟨rfl, rfl⟩ := ih h'
      exact ⟨rfl, rfl⟩

/-! ### What the loop does -/

/-- A comma separates the two numbers of a `--port-and-ld`. -/
def TunnelOption.HasComma : TunnelOption → Prop
  | .portAndLd v => ',' ∈ v.toList
  | _ => True

/- `front` has been looked at, and its beginning rewritten. -/
structure TunnelScan.At (s : TunnelScan) (front args : List String) : Prop where
  argv : s.argv = front ++ args
  room : s.j ≤ front.length

theorem TunnelScan.At.start (argv : List String) (vars : TunnelVars) : TunnelScan.At ⟨argv, 0, vars⟩ [] argv :=
  ⟨rfl, Nat.le_refl 0⟩

section Loop
variable {overflow : ℤ → ℤ} {s : TunnelScan} {front args : List String}

theorem TunnelScan.At.here {arg : String} (h : s.At front (arg :: args)) : s.argv[front.length]? = some arg := by
  rw [h.argv, List.getElem?_append_right (Nat.le_refl _), Nat.sub_self, List.getElem?_cons_zero]

theorem TunnelScan.At.next {arg : String} (h : s.At front (arg :: args)) :
    s.argv[front.length + 1]? = args.head? := by
  rw [h.argv, List.getElem?_append_right (Nat.le_add_right _ 1), Nat.add_sub_cancel_left, List.getElem?_cons_succ,
    List.head?_eq_getElem?]

theorem TunnelScan.At.take (overflow : ℤ → ℤ) (o : TunnelOption) (h : s.At front (o.words ++ args)) :
    TunnelScan.At { s with vars := s.vars.take overflow o } (front ++ o.words) args := by
  constructor
  · show s.argv = front ++ o.words ++ args
    rw [h.argv, List.append_assoc]
  · show s.j ≤ (front ++ o.words).length
    rw [List.length_append]
    exact Nat.le_trans h.room (Nat.le_add_right _ _)

theorem TunnelScan.At.keep {arg : String} (h : s.At front (arg :: args)) :
    ∃ front', front'.length = front.length + 1 ∧ (s.keep arg).At front' args ∧
      (s.keep arg).argv.take (s.keep arg).j = s.argv.take s.j ++ [arg] := by
  have hlt : s.j < (front ++ [arg]).length := by
    rw [List.length_append, List.length_singleton]
    exact Nat.lt_succ_of_le h.room
  have hset : s.argv.set s.j arg = (front ++ [arg]).set s.j arg ++ args := by
    rw [h.argv, List.append_cons, List.set_append_left _ _ hlt]
  refine ⟨(front ++ [arg]).set s.j arg, ?_, ⟨hset, ?_⟩, ?_⟩
  · rw [List.length_set, List.length_append, List.length_singleton]
  · rw [List.length_set]
    exact hlt
  · show (s.argv.set s.j arg).take (s.j + 1) = s.argv.take s.j ++ [arg]
    have hall : s.j < s.argv.length := by
      rw [h.argv, List.append_cons, List.length_append]
      omega
    have hlen : (s.argv.take s.j).length = s.j := List.length_take_of_le (Nat.le_of_lt hall)
    rw [List.set_eq_take_append_cons_drop, if_pos hall, List.append_cons, List.take_left']
    rw [List.length_append, hlen, List.length_singleton]

theorem tunnelLoop_end (rounds : ℕ) (h : s.At front []) : tunnelLoop overflow rounds front.length s = some s := by
  cases rounds with
  | zero => rfl
  | succ rounds =>
    have hnone : s.argv[front.length]? = none := by
      rw [h.argv, List.append_nil]
      exact List.getElem?_eq_none (Nat.le_refl _)
    rw [tunnelLoop, hnone, Option.elim_none]

theorem tunnelLoop_option (rounds : ℕ) (o : TunnelOption) (h : s.At front (o.words ++ args)) (ho : o.HasComma) :
    tunnelLoop overflow (rounds + 1) front.length s =
      tunnelLoop overflow rounds (front ++ o.words).length { s with vars := s.vars.take overflow o } := by
  rw [List.length_append]
  cases o with
  | port v =>
    have hnext : s.argv[front.length + 1]? = some v := h.next
    rw [tunnelLoop, h.here, Option.elim_some, if_pos rfl, hnext]
    rfl
  | ld v =>
    have hnext : s.argv[front.length + 1]? = some v := h.next
    rw [tunnelLoop, h.here, Option.elim_some, if_neg (by decide), if_pos rfl, hnext]
    rfl
  | portAndLd v =>
    have hnext : s.argv[front.length + 1]? = some v := h.next
    have hv : ',' ∈ v.toList := ho
    rw [tunnelLoop, h.here, Option.elim_some, if_neg (by decide), if_neg (by decide), if_pos rfl, hnext,
      Option.bind_some, if_pos hv]
    rfl
  | mhd =>
    rw [tunnelLoop, h.here, Option.elim_some, if_neg (by decide), if_neg (by decide), if_neg (by decide), if_pos rfl]
    rfl

theorem tunnelLoop_other (rounds : ℕ) (arg : String) (h : s.At front (arg :: args)) (ho : arg ∉ tunnelNames) :
    tunnelLoop overflow (rounds + 1) front.length s = tunnelLoop overflow rounds (front.length + 1) (s.keep arg) := by
  simp only [tunnelNames, List.mem_cons, List.not_mem_nil, or_false, not_or] at ho
  rw [tunnelLoop, h.here, Option.elim_some, if_neg ho.1, if_neg ho.2.1, if_neg ho.2.2.1, if_neg ho.2.2.2]

/- An option without its value, or without a comma in it, ends the loop. -/
theorem tunnelLoop_no_comma (rounds : ℕ) (v : String) (h : s.At front ("--port-and-ld" :: v :: args))
    (hv : ',' ∉ v.toList) : tunnelLoop overflow (rounds + 1) front.length s = none := by
  have hnext : s.argv[front.length + 1]? = some v := h.next
  rw [tunnelLoop, h.here, Option.elim_some, if_neg (by decide), if_neg (by decide), if_pos rfl, hnext,
    Option.bind_some, if_neg hv]

theorem tunnelLoop_no_value (rounds : ℕ) (arg : String) (h : s.At front [arg]) (hmem : arg ∈ tunnelNames)
    (hmhd : arg ≠ "--tunnel-mhd") : tunnelLoop overflow (rounds + 1) front.length s = none := by
  have hnext : s.argv[front.length + 1]? = none := h.next
  have hnames : arg = "--tunnel-port" ∨ arg = "--tunnel-ld" ∨ arg = "--port-and-ld" := by
    simp only [tunnelNames, List.mem_cons, List.not_mem_nil, or_false, hmhd] at hmem
    exact hmem
  rw [tunnelLoop, h.here, Option.elim_some, hnext]
  simp only [Option.bind_none]
  rcases hnames with rfl | rfl | rfl
  · rfl
  · rfl
  · rfl

/-- A complete list is gone through to its end. -/
theorem tunnelLoop_of_split {os : List TunnelOption} {rest : List String} (hsplit : TunnelSplit args os rest)
    (hcomma : ∀ o ∈ os, o.HasComma) (rounds : ℕ) (hrounds : args.length ≤ rounds) (h : s.At front args) :
    ∃ s', tunnelLoop overflow rounds front.length s = some s' ∧
      s'.argv.take s'.j = s.argv.take s.j ++ rest ∧ s'.vars = os.foldl (TunnelVars.take overflow) s.vars := by
  induction hsplit generalizing s front rounds with
  | nil => exact ⟨s, tunnelLoop_end rounds h, (List.append_nil _).symm, rfl⟩
  | @option o args os rest _ ih =>
    obtain ⟨ho, hcomma⟩ := List.forall_mem_cons.mp hcomma
    have hwords : 0 < o.words.length := by cases o <;> exact Nat.succ_pos _
    rw [List.length_append] at hrounds
    cases rounds with
    | zero => omega
    | succ rounds =>
      obtain ⟨s', hloop, hrest, hvars⟩ := ih hcomma rounds (by omega) (h.take overflow o)
      exact ⟨s', (tunnelLoop_option rounds o h ho).trans hloop, hrest, hvars⟩
  | @other arg hother args os rest _ ih =>
    cases rounds with
    | zero => cases hrounds
    | succ rounds =>
      obtain ⟨front', hlen, hat, hkept⟩ := h.keep
      obtain ⟨s', hloop, hrest, hvars⟩ := ih hcomma rounds (Nat.le_of_succ_le_succ hrounds) hat
      rw [hlen] at hloop
      refine ⟨s', (tunnelLoop_other rounds arg h hother).trans hloop, ?_, hvars⟩
      rw [hrest, hkept, List.append_assoc, List.singleton_append]

/-- What is gone through to its end is complete. -/
theorem split_of_tunnelLoop (rounds : ℕ) (hrounds : args.length ≤ rounds) (h : s.At front args) {s' : TunnelScan}
    (hloop : tunnelLoop overflow rounds front.length s = some s') :
    ∃ os rest, TunnelSplit args os rest ∧ ∀ o ∈ os, o.HasComma := by
  induction rounds generalizing s front args with
  | zero =>
    obtain rfl := List.length_eq_zero_iff.mp (Nat.le_zero.mp hrounds)
    exact ⟨[], [], .nil, List.forall_mem_nil _⟩
  | succ rounds ih =>
    -- an option at the head goes with the split of what follows it
    have hoption : ∀ (o : TunnelOption) (tail : List String), args = o.words ++ tail → o.HasComma →
        ∃ os rest, TunnelSplit args os rest ∧ ∀ o ∈ os, o.HasComma := by
      rintro o tail rfl ho
      rw [tunnelLoop_option rounds o h ho] at hloop
      have hwords : 0 < o.words.length := by cases o <;> exact Nat.succ_pos _
      rw [List.length_append] at hrounds
      obtain ⟨os, rest, hsplit, hcomma⟩ := ih (by omega) (h.take overflow o) hloop
      exact ⟨o :: os, rest, .option o hsplit, List.forall_mem_cons.mpr ⟨ho, hcomma⟩⟩
    cases args with
    | nil => exact ⟨[], [], .nil, List.forall_mem_nil _⟩
    | cons arg tail =>
      by_cases hmem : arg ∈ tunnelNames
      · by_cases hmhd : arg = "--tunnel-mhd"
        · exact hoption .mhd tail (hmhd ▸ rfl) trivial
        · cases tail with
          | nil =>
            rw [tunnelLoop_no_value rounds arg h hmem hmhd] at hloop
            cases hloop
          | cons v tail =>
            simp only [tunnelNames, List.mem_cons, List.not_mem_nil, or_false, hmhd] at hmem
            rcases hmem with rfl | rfl | rfl
            · exact hoption (.port v) tail rfl trivial
            · exact hoption (.ld v) tail rfl trivial
            · by_cases hv : ',' ∈ v.toList
              · exact hoption (.portAndLd v) tail rfl hv
              · rw [tunnelLoop_no_comma rounds v h hv] at hloop
                cases hloop
      · rw [tunnelLoop_other rounds arg h hmem] at hloop
        obtain ⟨front', hlen, hat, -⟩ := h.keep
        rw [← hlen] at hloop
        obtain ⟨os, rest, hsplit, hcomma⟩ := ih (Nat.le_of_succ_le_succ hrounds) hat hloop
        exact ⟨os, arg :: rest, .other hmem hsplit, hcomma⟩

end Loop

end LibCxlmi.Tools
