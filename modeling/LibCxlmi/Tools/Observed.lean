import LibCxlmi.Tools.System

/-!
# Runs against an operating system

The calls that are not commands are answered by the operating system. A function
that asks each of them once meets one answer to each, so that the operating
system is a function. What is left of a run are the commands and their results.
-/

namespace LibCxlmi.Tools
open LibCxlmi.Dialogue

def SysCall.fromDevice : SysCall → Bool
  | .transferFw _ | .vendor _ _ => true
  | _ => false

def resultOf : Event SysCall SysCall.Answer → ℤ
  | ⟨.transferFw _, x⟩ => x
  | ⟨.vendor _ _, x⟩ => x.rc
  | _ => 0

/-- The commands of a run, with their results. -/
def deviceCalls (t : Log) : List (SysCall × ℤ) :=
  (t.filter fun e => e.asked.fromDevice).map fun e => (e.asked, resultOf e)

theorem deviceCalls_append (t u : Log) : deviceCalls (t ++ u) = deviceCalls t ++ deviceCalls u := by
  rw [deviceCalls, List.filter_append, List.map_append]
  rfl

/-- The answers that are not the device's are those of the operating system `os`. -/
def Follows (os : (q : SysCall) → q.Answer) (t : Log) : Prop :=
  ∀ e ∈ t, e.asked.fromDevice = false → e.answer = os e.asked

section Observed
variable (os : (q : SysCall) → q.Answer) {α β : Type}

/-- A run whose commands and results are `l`. -/
def Observed (p : Tool α) (l : List (SysCall × ℤ)) (r : α) : Prop :=
  ∃ t, p.Runs t r ∧ Follows os t ∧ deviceCalls t = l

theorem observed_ret (a : α) (l : List (SysCall × ℤ)) (r : α) :
    Observed os (pure a : Tool α) l r ↔ l = [] ∧ r = a := by
  constructor
  · rintro ⟨t, ⟨rfl, rfl⟩, -, rfl⟩
    exact ⟨rfl, rfl⟩
  · rintro ⟨rfl, rfl⟩
    exact ⟨[], ⟨rfl, rfl⟩, List.forall_mem_nil _, rfl⟩

theorem observed_bind (p : Tool α) (g : α → Tool β) (l : List (SysCall × ℤ)) (r : β) :
    Observed os (p >>= g) l r ↔ ∃ l₁ l₂ a, l = l₁ ++ l₂ ∧ Observed os p l₁ a ∧ Observed os (g a) l₂ r := by
  constructor
  · rintro ⟨t, hrun, hos, rfl⟩
    obtain ⟨t₁, t₂, a, rfl, h₁, h₂⟩ := (runs_bind p g t r).mp hrun
    obtain ⟨hos₁, hos₂⟩ := List.forall_mem_append.mp hos
    exact ⟨_, _, a, deviceCalls_append t₁ t₂, ⟨t₁, h₁, hos₁, rfl⟩, ⟨t₂, h₂, hos₂, rfl⟩⟩
  · rintro ⟨l₁, l₂, a, rfl, ⟨t₁, h₁, hos₁, rfl⟩, ⟨t₂, h₂, hos₂, rfl⟩⟩
    exact ⟨t₁ ++ t₂, (runs_bind p g _ r).mpr ⟨t₁, t₂, a, rfl, h₁, h₂⟩, List.forall_mem_append.mpr ⟨hos₁, hos₂⟩,
      deviceCalls_append t₁ t₂⟩

theorem observed_local (q : SysCall) (hq : q.fromDevice = false) (l : List (SysCall × ℤ)) (a : q.Answer) :
    Observed os (ask q) l a ↔ l = [] ∧ a = os q := by
  constructor
  · rintro ⟨t, ⟨x, t', rfl, rfl, rfl⟩, hos, rfl⟩
    refine ⟨?_, hos _ (List.mem_singleton_self _) hq⟩
    rw [deviceCalls, List.filter_singleton, hq]
    rfl
  · rintro ⟨rfl, rfl⟩
    refine ⟨[⟨q, os q⟩], ⟨os q, [], rfl, rfl, rfl⟩, ?_, ?_⟩
    · intro e he _
      rw [List.mem_singleton.mp he]
    · rw [deviceCalls, List.filter_singleton, hq]
      rfl

/- For a call that sends nothing: what follows is decided by its outcome `b`. -/
theorem observed_checked (call : Tool Bool) (b : Bool) (failed next : Tool α) (l : List (SysCall × ℤ)) (r : α)
    (hcall : ∀ l a, Observed os call l a ↔ l = [] ∧ a = b) :
    Observed os (checked call failed next) l r ↔ Observed os (if b = true then next else failed) l r := by
  rw [checked, observed_bind]
  constructor
  · rintro ⟨l₁, l₂, a, rfl, h, hnext⟩
    obtain ⟨rfl, rfl⟩ := (hcall l₁ a).mp h
    exact hnext
  · intro hnext
    exact ⟨[], l, b, rfl, (hcall [] b).mpr ⟨rfl, rfl⟩, hnext⟩

def reads (pos len : ℕ) : Bool := os (.fread pos len)

theorem observed_fread (f : File) (pos len : ℕ) (l : List (SysCall × ℤ)) (a : Bool) :
    Observed os (f.fread pos len) l a ↔ l = [] ∧ a = (reads os pos len && decide (pos + len ≤ f.size)) := by
  rw [File.fread, observed_bind]
  constructor
  · rintro ⟨l₁, l₂, x, rfl, h, hret⟩
    obtain ⟨rfl, rfl⟩ := (observed_local os (.fread pos len) rfl l₁ x).mp h
    exact (observed_ret os _ l₂ a).mp hret
  · rintro ⟨rfl, rfl⟩
    exact ⟨[], [], _, rfl, (observed_local os (.fread pos len) rfl [] _).mpr ⟨rfl, rfl⟩,
      (observed_ret os _ [] _).mpr ⟨rfl, rfl⟩⟩

end Observed

/-- Every call succeeds, and every command with a zero. -/
def willing : (q : SysCall) → q.Answer
  | .fseekEnd | .ftell | .fseekSet _ | .fread _ _ | .fopenWrite _ | .fwrite _ | .calloc _ => true
  | .clockGettime => some 0
  | .usleep _ => ()
  | .transferFw _ => (0 : ℤ)
  | .vendor _ _ => ⟨0, []⟩

/-- As `willing`, but what lies at `bad` cannot be read. -/
def unreadableAt (bad : ℕ) : (q : SysCall) → q.Answer
  | .fread pos _ => pos != bad
  | q => willing q

theorem follows_oracle {α : Type} (os : (q : SysCall) → q.Answer) (p : Tool α) :
    Follows os (p.play (fun _ => os) []).1 :=
  fun e he _ => play_oracle os p [] e he

end LibCxlmi.Tools
