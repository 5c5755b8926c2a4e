import LibCxlmi.Tools.SilentRuns

/-!
# Success without an inner reply

A subcommand of the sideband tunnel that returns 0 has heard of a success from
the device behind the tunnel, for those devices whose replies are not misread
and for no others.
-/

namespace LibCxlmi.Tools
open LibCxlmi.Word LibCxlmi.Transport LibCxlmi.Dialogue

/-- The inner return codes that are success; `background` says whether the code for a
background operation that was started is one of them. -/
def innerOk (background : Bool) (rc : ℤ) : Bool := rc == 0 || background && rc == 1

/-- The replies in `R` do not mislead the tool. A missing byte of the inner return code
counts as zero. -/
structure NotMisread (o : ByteOrder) (k : SdbKind) (background : Bool) (R : IoctlResult → Prop) : Prop where
  short : ∀ out, R (.done 0 out) → out.length < 16 → k.ok (innerReturnCode o out) = false
  outer : k = .transferFw → ∀ out, ¬R (.done 1 out)
  inner : k = .transferFw → background = false → ∀ out, R (.done 0 out) → innerReturnCode o out ≠ 1

theorem xferFwOk_iff (rc : ℤ) : xferFwOk rc = true ↔ rc = 0 ∨ rc = 1 := by
  simp only [xferFwOk, Bool.or_eq_true, beq_iff_eq]

theorem SdbKind.ok_one (k : SdbKind) (rc : ℤ) (h : k.ok rc = true) : rc = 0 ∨ k = .transferFw ∧ rc = 1 := by
  cases k with
  | transferFw => exact ((xferFwOk_iff rc).mp h).imp id fun h1 => ⟨rfl, h1⟩
  | _ => exact .inl (beq_iff_eq.mp h)

theorem outerCode_done_zero (o : ByteOrder) (out : Bytes) : outerCode o (.done 0 out) = innerReturnCode o out := by
  rw [outerCode, if_neg (not_not.mpr rfl), innerReturnCode_fillBuf]

section Replies
variable {o : ByteOrder} {k : SdbKind} {background : Bool} {R : IoctlResult → Prop}

theorem NotMisread.backed (h : NotMisread o k background R) (x : IoctlResult) (hx : R x) : Backed o k.ok x := by
  intro hok
  cases x with
  | error => exact (k.ok_one (-1) hok).elim (fun h0 => absurd h0 (by decide)) fun h1 => absurd h1.2 (by decide)
  | done retval out =>
    by_cases hrc : retval = 0
    · subst hrc
      rw [outerCode_done_zero] at hok
      refine ⟨out, rfl, Nat.le_of_not_lt fun hlt => ?_⟩
      rw [h.short out hx hlt] at hok
      exact Bool.noConfusion hok
    · -- a return code of the outer command is success for transfer-fw alone, if it is 1
      rw [outerCode, if_pos hrc] at hok
      rcases k.ok_one _ hok with h0 | ⟨hk, h1⟩
      · exact absurd (Fin.ext (Int.ofNat_eq_zero.mp h0)) hrc
      · have hone : retval = 1 := Fin.ext (Int.ofNat_inj.mp h1)
        rw [hone] at hx
        exact absurd hx (h.outer hk out)

theorem NotMisread.innerSuccess (h : NotMisread o k background R) (x : IoctlResult) (hx : R x)
    (hin : InnerSuccess o k.ok x) : InnerSuccess o (innerOk background) x := by
  obtain ⟨out, rfl, hlen, hok⟩ := hin
  refine ⟨out, rfl, hlen, ?_⟩
  rcases k.ok_one _ hok with h0 | ⟨hk, h1⟩
  · rw [h0]
    rfl
  · cases background with
    | true =>
      rw [h1]
      rfl
    | false => exact absurd (Int.ofNat_inj.mp h1) (h.inner hk rfl out hx)

end Replies

/-- For each subcommand and every repertoire of ioctl outcomes: success is reported for
commands that the inner reply confirms, and for no others, exactly if no reply of the
repertoire is misread. -/
theorem success_backed_iff (o : ByteOrder) (ep : Endpoint) (hep : IsMailbox ep) (k : SdbKind) (background : Bool)
    (R : IoctlResult → Prop) :
    (∀ (c : SdbCommand) (disk : Disk) (rounds : ℕ) (t : MailboxLog) (e : End), c.kind = k →
      (onMailbox o ep (c.run o disk rounds)).Runs t e → (∀ x ∈ outerReplies t, R x) →
      e = .returned 0 → ∀ x ∈ outerReplies t, InnerSuccess o (innerOk background) x) ↔
    NotMisread o k background R := by
  constructor
  · intro hall
    -- a reply that reads as success is heard in some run that returns 0
    have hheard : ∀ x, R x → k.ok (outerCode o x) = true → (k = .vuGetdevcfg → ¬WholeReply x) →
        InnerSuccess o (innerOk background) x := by
      intro x hx hok hshort
      obtain ⟨c, disk, n, hc, t, ht, hreplies⟩ := reaches_success o ep hep k x hok hshort
      refine hall c disk 1 t _ hc ht (fun y hy => ?_) rfl x ?_
      · rw [hreplies] at hy
        rw [List.eq_of_mem_replicate hy]
        exact hx
      · rw [hreplies]
        exact List.mem_cons_self
    refine ⟨fun out hx hlen => ?_, fun hk out hx => ?_, fun hk hb out hx hone => ?_⟩
    · by_contra hne
      have hshort : ¬WholeReply (.done 0 out) := by
        intro ⟨out', hout, hlen'⟩
        rw [← (IoctlResult.done.inj hout).2] at hlen'
        omega
      have hok : k.ok (outerCode o (.done 0 out)) = true := by
        rw [outerCode_done_zero]
        exact Bool.not_eq_false _ ▸ hne
      obtain ⟨out', hout, hlen', -⟩ := hheard _ hx hok fun _ => hshort
      exact hshort ⟨out', hout, hlen'⟩
    · subst hk
      obtain ⟨out', hout, -⟩ := hheard _ hx rfl nofun
      exact absurd (IoctlResult.done.inj hout).1 (by decide)
    · subst hk hb
      have hok : xferFwOk (outerCode o (.done 0 out)) = true := by
        rw [outerCode_done_zero, hone]
        rfl
      obtain ⟨out', hout, -, hin⟩ := hheard _ hx hok nofun
      rw [← (IoctlResult.done.inj hout).2, hone] at hin
      exact Bool.noConfusion hin
  · intro hR c disk rounds t e hc ht hreplies he x hx
    subst hc
    have hbacks : Hears o ep R (c.run o disk rounds) (Backs o c.kind.ok) [] := by
      cases c with
      | transferFw args => exact hears_transferFw hep hR.backed disk args
      | vuDlcfg args => exact hears_vuDlcfg hep hR.backed disk args
      | vuGetdevcfg args => exact hears_vuGetdevcfg hep hR.backed rounds args
      | vuDdrfreq args => exact hears_vuOnce hep hR.backed _ args
      | vuPciespeed args => exact hears_vuOnce hep hR.backed _ args
      | clearEventRecords args => exact hears_clearEventRecords hep hR.backed args
      | setFeature port params => exact hears_setFeature hep hR.backed disk port params
    exact hR.innerSuccess x (hreplies x hx) (hears_sound hbacks t e ht hreplies he x hx)

def memdev : Endpoint := ⟨none, 3, false⟩

theorem memdev_isMailbox : IsMailbox memdev := ⟨rfl, by decide⟩

/-- With whole replies that say success, all that is left to fail is the host. -/
theorem wholeReplies_backed : IsMailbox memdev ∧
    ∀ (c : SdbCommand) (disk : Disk) (rounds : ℕ) (t : MailboxLog) (e : End), c.kind = .transferFw →
      (onMailbox .little memdev (c.run .little disk rounds)).Runs t e →
      (∀ x ∈ outerReplies t, x = .done 0 (zeros 16)) → e = .returned 0 →
      ∀ x ∈ outerReplies t, InnerSuccess .little (innerOk false) x := by
  have hreplies : NotMisread .little .transferFw false fun x => x = .done 0 (zeros 16) := by
    refine ⟨fun out hout hlen => ?_, fun _ out hout => ?_, fun _ _ out hout => ?_⟩
    · rw [(IoctlResult.done.inj hout).2] at hlen
      exact absurd hlen (by decide)
    · exact absurd (IoctlResult.done.inj hout).1 (by decide)
    · rw [(IoctlResult.done.inj hout).2]
      decide
  exact ⟨memdev_isMailbox, (success_backed_iff .little memdev memdev_isMailbox .transferFw false _).mpr hreplies⟩

/-- An empty reply clears the event records, and a transfer is complete when the outer
command has started a background operation. -/
theorem empty_replies_succeed :
    (∃ t, (onMailbox .little memdev (SdbCommand.run .little (fun _ => none) 0
        (.clearEventRecords ["--log", "info", "--all"]))).Runs t (.returned 0) ∧
      outerReplies t = [.done 0 []] ∧ ¬InnerSuccess .little (innerOk true) (.done 0 [])) ∧
    ∃ t, (onMailbox .little memdev (SdbCommand.run .little (fun _ => some smallFile) 0
        (.transferFw ["--input", "fw.bin", "--slot", "1"]))).Runs t (.returned 0) ∧
      outerReplies t = [.done 1 []] ∧ ¬InnerSuccess .little (innerOk true) (.done 1 []) := by
  obtain ⟨t, ht, hreplies⟩ := reaches_clearEventRecords memdev_isMailbox
    (by decide : outerCode .little (.done 0 []) = 0)
  obtain ⟨u, hu, hreplies'⟩ := reaches_transferFw memdev_isMailbox
    (by decide : xferFwOk (outerCode .little (.done 1 [])) = true)
  refine ⟨⟨t, ht, hreplies, ?_⟩, u, hu, hreplies', ?_⟩
  · intro ⟨out, hout, hlen, _⟩
    rw [← (IoctlResult.done.inj hout).2] at hlen
    exact absurd hlen (by decide)
  · intro ⟨out, hout, _⟩
    exact absurd (IoctlResult.done.inj hout).1 (by decide)

end LibCxlmi.Tools
