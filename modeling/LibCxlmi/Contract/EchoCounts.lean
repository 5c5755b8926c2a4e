import LibCxlmi.Contract.Listing

/-!
# Counts the device echoes (commands.c:2282-2343, 2710-2756, 2790-2899, 3019-3357)

The request of these FM API commands carries the number of elements, and sizes the
response with it. The copy to the caller runs to the number in the reply, which is
not compared with the one that was sent.
-/

namespace LibCxlmi.Contract
open LibCxlmi.Word LibCxlmi.Cci LibCxlmi.Transport LibCxlmi.Commands

variable {α : Type}

/-- The elements the request makes room for, in the response and at the caller. -/
def sizedFor : Command α → Option ℕ
  | .fmapiGetPhysPortState i => some i.ports.length
  | .fmapiGetLdAllocations _ ldAllocationListLimit => some ldAllocationListLimit.val
  | .fmapiSetLdAllocations i => some i.ldAllocationList.length
  | .fmapiGetQosAllocatedBw numberLd _ => some numberLd.val
  | .fmapiSetQosAllocatedBw i => some i.fractions.length
  | .fmapiGetQosBwLimit numberLd _ => some numberLd.val
  | .fmapiSetQosBwLimit i => some i.fractions.length
  | .fmapiGetMultiheadedInfo _ ldMapListLimit => some ldMapListLimit.val
  | .fmapiGetHeadInfo _ numHeads => some numHeads.val
  | .fmapiSendLdCxlioMemRequest i => some (min i.transactionLen.val 0x1000)
  | _ => none

/-- The number the device echoes. -/
def echoed : Command α → Bytes → ℕ
  | .fmapiGetLdAllocations _ _, d => byteAt d 3
  | .fmapiGetMultiheadedInfo _ _, d => byteAt d 5
  | .fmapiSendLdCxlioMemRequest _, d => leVal (slice d 0 2)
  | _, d => byteAt d 0

/-- A list of `echoed` elements, for which the response has room for `n`. -/
structure Echo (l : Listing) (e n room : ℕ) : Prop where
  count : l.count = e
  tail : l.tail = 0
  size : 0 < l.size
  room : room = l.head + n * l.size

theorem Echo.extent_le (l : Listing) (e n room : ℕ) (h : Echo l e n room) : l.extent ≤ room ↔ e ≤ n := by
  rw [Listing.extent, h.tail, h.room, h.count, Nat.add_zero, Nat.add_le_add_iff_left]
  exact Nat.mul_le_mul_right_iff h.size

theorem listing_echo (c : Command α) (n : ℕ) (hn : sizedFor c = some n) (o : ByteOrder) (d : Bytes) :
    ∃ l, listing o c d = some l ∧ Echo l (echoed c d) n (c.spec.rspSz o - 12) ∧ echoed c d < 2 ^ 31 := by
  have hbyte : ∀ i, (byteAt d i).val < 2 ^ 31 := fun i => (byteAt d i).isLt.trans (by decide)
  cases c
  case fmapiGetPhysPortState | fmapiSetLdAllocations | fmapiGetHeadInfo =>
    obtain rfl := Option.some.inj hn
    exact ⟨_, rfl, ⟨rfl, rfl, Nat.succ_pos _, Nat.add_sub_cancel_left 12 _⟩, hbyte 0⟩
  case fmapiGetLdAllocations =>
    obtain rfl := Option.some.inj hn
    exact ⟨_, rfl, ⟨rfl, rfl, Nat.succ_pos _, Nat.add_sub_cancel_left 12 _⟩, hbyte 3⟩
  case fmapiGetQosAllocatedBw | fmapiSetQosAllocatedBw | fmapiGetQosBwLimit | fmapiSetQosBwLimit =>
    obtain rfl := Option.some.inj hn
    refine ⟨_, rfl, ⟨rfl, rfl, Nat.one_pos, ?_⟩, hbyte 0⟩
    rw [Nat.mul_one]
    exact Nat.add_sub_cancel_left 12 _
  case fmapiGetMultiheadedInfo =>
    obtain rfl := Option.some.inj hn
    refine ⟨_, rfl, ⟨rfl, rfl, Nat.one_pos, ?_⟩, hbyte 5⟩
    rw [Nat.mul_one]
    exact Nat.add_sub_cancel_left 12 _
  case fmapiSendLdCxlioMemRequest =>
    obtain rfl := Option.some.inj hn
    refine ⟨_, rfl, ⟨rfl, rfl, Nat.one_pos, ?_⟩, leVal_lt_two d 0⟩
    rw [Nat.mul_one]
    exact Nat.add_sub_cancel_left 12 _
  all_goals cases hn

theorem echo_bounded_iff (c : Command α) (n : ℕ) (hn : sizedFor c = some n) (o : ByteOrder) (env : Env)
    (ep : Endpoint) (ti : Option TunnelInfo) (d : Bytes) (h : AcceptedReply c o env ep ti d) :
    (∃ v, Hands c o env ep ti v ∧ elements c v ≤ n) ↔ echoed c d ≤ n := by
  obtain ⟨l, hl, hecho, hsigned⟩ := listing_echo c n hn o d
  obtain ⟨hex, hcount⟩ := hands_iff c o env ep ti d h l hl
  rw [hecho.extent_le, hecho.count] at hex
  rw [hecho.count] at hcount
  constructor
  · rintro ⟨v, hv, -⟩
    exact (hex.mp ⟨v, hv⟩).1
  · intro hle
    obtain ⟨v, hv⟩ := hex.mpr ⟨hle, hsigned⟩
    rw [← hcount v hv] at hle
    exact ⟨v, hv, hle⟩

/- A number of logical devices, and two fractions. -/
def twoFractions (numberLd : Byte) : Bytes := [numberLd, 0, 0x10, 0x20]

theorem twoFractions_bounded :
    AcceptedReply (.fmapiGetQosBwLimit 2 0) .little (mailboxAnswers 0 (twoFractions 2)) switchMailbox none
        (twoFractions 2) ∧
      ∃ v, Hands (.fmapiGetQosBwLimit 2 0) .little (mailboxAnswers 0 (twoFractions 2)) switchMailbox none v ∧
        v.fractions.length ≤ 2 := by
  have haccepted : AcceptedReply (.fmapiGetQosBwLimit 2 0) .little (mailboxAnswers 0 (twoFractions 2)) switchMailbox
      none (twoFractions 2) := ⟨⟨_, _, ⟨rfl, by decide, rfl, by decide, rfl⟩, rfl⟩, by decide +kernel⟩
  exact ⟨haccepted, (echo_bounded_iff (.fmapiGetQosBwLimit 2 0) 2 rfl .little (mailboxAnswers 0 (twoFractions 2))
    switchMailbox none (twoFractions 2) haccepted).mpr (by decide)⟩

/-- Three fractions are copied out of a response that has two. -/
theorem echo_above_request :
    AcceptedReply (.fmapiGetQosBwLimit 2 0) .little (mailboxAnswers 0 (twoFractions 3)) switchMailbox none
        (twoFractions 3) ∧ echoed (.fmapiGetQosBwLimit 2 0) (twoFractions 3) = 3 ∧
      ((fmapiGetQosBwLimit 2 0).run .little (mailboxAnswers 0 (twoFractions 3)) switchMailbox none).isNone = true := by
  refine ⟨?_, by decide, by decide +kernel⟩
  exact ⟨⟨_, _, ⟨rfl, by decide, rfl, by decide, rfl⟩, rfl⟩, by decide +kernel⟩

end LibCxlmi.Contract
