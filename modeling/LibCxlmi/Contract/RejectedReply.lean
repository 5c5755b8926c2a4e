import LibCxlmi.Commands.Table

/-!
# Replies that were rejected

Every command but one returns as soon as `send_cmd_cci` reports a nonzero code.
`cxlmi_cmd_fmapi_dc_list_tags` goes on to decode the response: it fills the
caller's structure with whatever the failed exchange left in the buffer, and
reads past the buffer if the count there is too large.
-/

namespace LibCxlmi.Contract
open LibCxlmi.Word LibCxlmi.Cci LibCxlmi.Transport LibCxlmi.Commands

variable {α : Type}

def ListsTags : Command α → Prop
  | .fmapiDcListTags _ _ => True
  | _ => False

theorem checked_iff (c : Command α) : c.spec.checked = true ↔ ¬ListsTags c := by
  cases c
  case fmapiDcListTags s n => exact iff_of_false Bool.noConfusion fun h => h trivial
  all_goals exact iff_of_true rfl id

/-- After a nonzero code the caller's structure is left as it was and the code is
returned, whatever the response buffer holds; except by DC List Tags. -/
theorem rejected_not_decoded_iff (c : Command α) (o : ByteOrder) (env : Env) (ep : Endpoint) (ti : Option TunnelInfo)
    (pl : Bytes) (s : Outcome Endpoint) (h : c.spec.Sends o env ep ti pl s) (hrc : s.rc ≠ 0) :
    c.spec.run o env ep ti = some ⟨s.rc, none, s.sent, s.st⟩ ↔ ¬ListsTags c := by
  rw [c.spec.run_of_sends o env ep ti pl s h, ← checked_iff]
  constructor
  · intro hfin
    by_contra hc
    unfold CciCommand.finish at hfin
    rw [if_neg fun hh => hc hh.1] at hfin
    obtain ⟨v, -, hv⟩ := Option.map_eq_some_iff.mp hfin
    cases hv
  · intro hc
    exact c.spec.finish_failed o s hc hrc

/-! ### A mailbox that fails a command and leaves bytes behind -/

def leftoverTags (n : Byte) : Bytes := [7, 0, 0, 0, 9, 0, 0, 0, n, 0, 0, 0, 0xff, 0, 0, 0]

theorem identify_not_decoded :
    ∃ s : Outcome Endpoint, s.rc = 2 ∧ identify.run .little (mailboxAnswers 2 (leftoverTags 1)) switchMailbox none =
      some ⟨s.rc, none, s.sent, s.st⟩ := by
  refine ⟨(sendIoctl .little (mailboxAnswers 2 (leftoverTags 1)) 3 none (identifyReq 0) 30 30).map
    fun _ => switchMailbox, rfl, ?_⟩
  exact (rejected_not_decoded_iff .identify .little (mailboxAnswers 2 (leftoverTags 1)) switchMailbox none [] _
    ⟨rfl, by decide, rfl, by decide, rfl⟩ (by decide)).mpr id

/- The device answers with code 2. With a count of 0 behind it the caller's
structure is filled from the rejected reply; with a count of 1, where no tag was
asked for, the response is read past its end. -/
theorem dcListTags_decodes_rejected :
    ((fmapiDcListTags 0 0).run .little (mailboxAnswers 2 (leftoverTags 0)) switchMailbox none).map
        (fun r => (r.rc, r.value)) = some (2, some ⟨7, 9, 0, 0xff, []⟩) ∧
      (∃ s, (fmapiDcListTags 0 0).Sends .little (mailboxAnswers 2 (leftoverTags 1)) switchMailbox none
        (zeros 8) s ∧ s.rc = 2) ∧
      (fmapiDcListTags 0 0).run .little (mailboxAnswers 2 (leftoverTags 1)) switchMailbox none = none := by
  refine ⟨by decide +kernel, ⟨_, ⟨rfl, by decide, rfl, by decide, rfl⟩, rfl⟩, ?_⟩
  have h : ((fmapiDcListTags 0 0).run .little (mailboxAnswers 2 (leftoverTags 1)) switchMailbox none).isNone =
      true := by
    decide +kernel
  exact Option.isNone_iff_eq_none.mp h

end LibCxlmi.Contract
