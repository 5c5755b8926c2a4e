import LibCxlmi.Tools.LogDecoders

/-!
# The walk over the long media test result (cmd_logs.c:276-325)

The offset of the next entry is a 32-bit sum. Where it does not wrap around, entries
start where the one before them ends, and all four decoders stay inside the log.
-/

namespace LibCxlmi.Tools
open LibCxlmi.Word

/-! ### The walk without wrap-around -/

/-- The signatures an entry has: what it says, as far as whole ones fit. -/
def signaturesThatFit (buf : ℕ → Byte) (length off : ℕ) : ℕ :=
  min (readLe buf (off + 0x28) 4) ((length - off - entryHdr) / sigSz)

/-- Where entries start when each begins where the one before it ends; the last one may
be one that does not fit any more. -/
def entryStarts (buf : ℕ → Byte) (length : ℕ) : ℕ → ℕ → List ℕ
  | 0, _ => []
  | rounds + 1, off =>
      off :: if off + entryHdr ≤ length then
        entryStarts buf length rounds (off + entryHdr + signaturesThatFit buf length off * sigSz)
      else []

section Walk
variable (buf : ℕ → Byte) (length off : ℕ) (hlen : length < 2 ^ 32)
include hlen

theorem clampedSignatures_eq (hoff : off + entryHdr ≤ length) :
    clampedSignatures buf length off = signaturesThatFit buf length off := by
  have hroom : u32 (length + 2 ^ 32 - off) = length - off := by
    unfold u32
    omega
  have hleft : u32 (length - off + 2 ^ 32 - entryHdr) = length - off - entryHdr := by
    unfold u32 entryHdr at *
    omega
  simp only [clampedSignatures, hroom, hleft, signaturesThatFit]

omit hlen in
theorem signatures_end_le (hoff : off + entryHdr ≤ length) :
    off + entryHdr + signaturesThatFit buf length off * sigSz ≤ length := by
  have hle : signaturesThatFit buf length off * sigSz ≤ length - off - entryHdr :=
    (Nat.mul_le_mul_right sigSz (Nat.min_le_right _ _)).trans (Nat.div_mul_le_self _ _)
  omega

/- One step of the walk is one of the plain walk as long as the next header does not
reach the end of the 32-bit range. -/
theorem longEntries_step (rounds : ℕ) (hfit : off + entryHdr < 2 ^ 32) :
    longEntries buf length (rounds + 1) off =
      if off + entryHdr ≤ length then
        ⟨off, signaturesThatFit buf length off⟩ ::
          longEntries buf length rounds (off + entryHdr + signaturesThatFit buf length off * sigSz)
      else [] := by
  have hhdr : u32 (off + entryHdr) = off + entryHdr := Nat.mod_eq_of_lt hfit
  rw [longEntries, hhdr]
  split_ifs with h
  · have hend := signatures_end_le buf length off h
    have hnext : u32 (off + u32 (entryHdr + u32 (signaturesThatFit buf length off * sigSz))) =
        off + entryHdr + signaturesThatFit buf length off * sigSz := by
      unfold u32
      omega
    simp only [clampedSignatures_eq buf length off hlen h, hnext]
  · rfl

/-- While no start comes near the end of the 32-bit range, every entry is in the log. -/
theorem longEntries_within (rounds : ℕ) (hoff : off ≤ length)
    (hstarts : ∀ p ∈ entryStarts buf length rounds off, p + entryHdr < 2 ^ 32) :
    ∀ e ∈ longEntries buf length rounds off, e.Within length := by
  induction rounds generalizing off with
  | zero => simp [longEntries]
  | succ rounds ih =>
    have hfit : off + entryHdr < 2 ^ 32 := hstarts off List.mem_cons_self
    rw [longEntries_step buf length off hlen rounds hfit]
    split_ifs with h
    · have hend := signatures_end_le buf length off h
      intro e he
      rcases List.mem_cons.mp he with rfl | he
      · refine ⟨h, ?_⟩
        intro s hs
        have hmul : (s + 1) * sigSz ≤ signaturesThatFit buf length off * sigSz := Nat.mul_le_mul_right sigSz hs
        rw [Nat.succ_mul] at hmul
        dsimp only
        omega
      · refine ih _ hend ?_ e he
        intro p hp
        refine hstarts p (List.mem_cons_of_mem off ?_)
        rw [if_pos h]
        exact hp
    · simp

/-- A start near the end of the range is taken for an entry that fits. -/
theorem entryStarts_fit (rounds : ℕ) (hoff : off ≤ length)
    (h : ∀ e ∈ longEntries buf length rounds off, e.off + entryHdr ≤ length) :
    ∀ p ∈ entryStarts buf length rounds off, p + entryHdr < 2 ^ 32 := by
  induction rounds generalizing off with
  | zero => simp [entryStarts]
  | succ rounds ih =>
    have hfit : off + entryHdr < 2 ^ 32 := by
      by_contra hwrap
      have hsmall : u32 (off + entryHdr) ≤ length := by
        unfold u32 entryHdr at *
        omega
      have hmem : (⟨off, clampedSignatures buf length off⟩ : LongEntry) ∈ longEntries buf length (rounds + 1) off := by
        rw [longEntries, if_pos hsmall]
        exact List.mem_cons_self
      have hle := h _ hmem
      dsimp only at hle
      omega
    rw [longEntries_step buf length off hlen rounds hfit] at h
    intro p hp
    rcases List.mem_cons.mp hp with rfl | hp
    · exact hfit
    · split_ifs at hp h with hin
      · exact ih _ (signatures_end_le buf length off hin) (fun e he => h e (List.mem_cons_of_mem _ he)) p hp
      · cases hp

end Walk

/-! ### All four decoders -/

/-- Each decoder reads below the length only; the walk over the long log comes to an
end, and what it prints is in the log. -/
structure LogReadsSafe (buf : ℕ → Byte) (length : U 32) : Prop where
  ecs : Inside length.val (ddr5EcsLog.reads buf length)
  capability : Inside length.val (mediaTestCapabilityLog.reads buf length)
  short : Inside length.val (mediaTestResultShortLog.reads buf length)
  long : Inside length.val (longReads buf length)
  rounds : (mediaTestLongEntries buf length).length ≤ 64
  printed : ∀ e ∈ mediaTestLongEntries buf length, e.Within length.val

theorem mediaTestLongEntries_within_iff (buf : ℕ → Byte) (length : U 32) :
    (∀ e ∈ mediaTestLongEntries buf length, e.Within length.val) ↔
      ∀ p ∈ entryStarts buf length.val 64 16, p + entryHdr < 2 ^ 32 := by
  unfold mediaTestLongEntries
  split_ifs with hshort
  · refine iff_of_true (by simp) ?_
    have hbig : ¬ 16 + entryHdr ≤ length.val := by
      unfold entryHdr
      omega
    intro p hp
    rw [entryStarts, if_neg hbig, List.mem_singleton] at hp
    rw [hp]
    decide
  · have hoff := Nat.le_of_not_lt hshort
    constructor
    · intro h
      exact entryStarts_fit buf length.val 16 length.isLt 64 hoff fun e he => (h e he).1
    · exact longEntries_within buf length.val 16 length.isLt 64 hoff

theorem longReads_inside (buf : ℕ → Byte) (length : U 32)
    (h : ∀ e ∈ mediaTestLongEntries buf length, e.Within length.val) : Inside length.val (longReads buf length) := by
  unfold longReads
  split_ifs with hshort
  · exact inside_nil length.val
  · have hhead : Inside 16 (fieldSpans mediaTestResultHead) := by decide
    refine (inside_append _ _ _).mpr ⟨hhead.mono _ _ _ (Nat.le_of_not_lt hshort), ?_⟩
    intro s hs
    obtain ⟨e, he, hs⟩ := List.mem_flatMap.mp hs
    exact e.reads_inside length.val (h e he) s hs

theorem mediaTestLongEntries_length_le (buf : ℕ → Byte) (length : U 32) :
    (mediaTestLongEntries buf length).length ≤ 64 := by
  unfold mediaTestLongEntries
  split_ifs
  · exact Nat.zero_le 64
  · exact longEntries_length_le buf length.val 64 16

/-- The decoders are safe for the logs none of whose entries starts in the last 48
bytes that 32 bits can address. -/
theorem logReadsSafe_iff (buf : ℕ → Byte) (length : U 32) :
    LogReadsSafe buf length ↔ ∀ p ∈ entryStarts buf length.val 64 16, p + entryHdr < 2 ^ 32 := by
  rw [← mediaTestLongEntries_within_iff]
  constructor
  · exact LogReadsSafe.printed
  · intro h
    obtain ⟨hecs, hcap, hshort⟩ := fixed_logs_inside buf length
    exact ⟨hecs, hcap, hshort, longReads_inside buf length h, mediaTestLongEntries_length_le buf length, h⟩

/-- The first entry of a log of 2^32 - 1 bytes says that it has as many signatures as
there are. The sum behind them is 2^32 - 32, from where a header ends at 16 again: the
second entry is read from the last bytes of the log and from behind it. -/
theorem long_log_wraps : (⟨0xffffffe0, 53687090⟩ : LongEntry) ∈ mediaTestLongEntries (fun _ => 255) 0xffffffff ∧
    ¬ LogReadsSafe (fun _ => 255) 0xffffffff := by
  have hfirst : longEntries (fun _ => 255) 0xffffffff 64 16 =
      ⟨16, 53687090⟩ :: longEntries (fun _ => 255) 0xffffffff 63 0xffffffe0 := by
    have hsigs : clampedSignatures (fun _ => 255) 0xffffffff 16 = 53687090 := by decide
    rw [longEntries, if_pos (by decide), hsigs]
    rfl
  have hsecond : (⟨0xffffffe0, 53687090⟩ : LongEntry) ∈ longEntries (fun _ => 255) 0xffffffff 63 0xffffffe0 := by
    have hsigs : clampedSignatures (fun _ => 255) 0xffffffff 0xffffffe0 = 53687090 := by decide
    rw [longEntries, if_pos (by decide), hsigs]
    exact List.mem_cons_self
  have hmem : (⟨0xffffffe0, 53687090⟩ : LongEntry) ∈ mediaTestLongEntries (fun _ => 255) 0xffffffff := by
    show _ ∈ longEntries (fun _ => 255) 0xffffffff 64 16
    rw [hfirst]
    exact List.mem_cons_of_mem _ hsecond
  refine ⟨hmem, ?_⟩
  intro h
  exact absurd (h.printed _ hmem).1 (by decide)

end LibCxlmi.Tools
