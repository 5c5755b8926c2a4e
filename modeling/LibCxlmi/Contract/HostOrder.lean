import LibCxlmi.Contract.HostPair

/-!
# Which commands do not depend on the host's byte order

Nothing of a command may reach a device through MCTP or a tunnel: the header of
every CCI message has `vendor_ext_status` in host order, and tunnelled replies
are judged by a return code read in host order. Without a header, on the plain
mailbox and on the mock, four commands still mistake the order of a count.
-/

namespace LibCxlmi.Contract
open LibCxlmi.Word LibCxlmi.Cci LibCxlmi.Transport LibCxlmi.Commands

variable {α : Type}

/-- Get Supported Features with the count for which `out.size` wraps to 0: the
mailbox returns no payload, so the miscounted entries are not there. -/
def ReadsNothing : Command α → Prop
  | .getSupportedFeatures count _ => count.val = 2 ^ 32 - 8
  | _ => False

def SameOnWire (c : Command α) (ep : Endpoint) (ti : Option TunnelInfo) : Prop :=
  match ep.transportData with
  | some (.mctp _) => False
  | some (.mock _) => Plain c
  | none =>
      if tunnelDepth ti = 0 then Plain c ∨ ReadsNothing c
      else Cut (tunnelDepth ti) c.spec.plSz ∧
        ¬Answerable (tunnelDepth ti - 1) (c.spec.rspSz .little) (c.spec.rspMin .little)

def OrderFree (c : Command α) (ep : Endpoint) (ti : Option TunnelInfo) : Prop :=
  (Silent ep ti c.spec.set ∧ (SameSizes c ∨ (c.spec.checked = true ∧ ¬Confused ep ti c.spec.set))) ∨
    (¬Silent ep ti c.spec.set ∧ SameOnWire c ep ti)

/-! ### Enough -/

theorem sendIoctlDirect_empty (env : Env) (fd : ℤ) (req : Bytes) (rspSz : ℕ) (h : u32 (rspSz - 12) = 0) :
    payload (sendIoctlDirect env fd req rspSz).rsp = zeros (rspSz - 12) := by
  unfold sendIoctlDirect
  cases hio : mailboxIoctl env fd (rspSz - 12) with
  | error => exact payload_zeros rspSz
  | done retval out =>
    have hout : out = [] := by
      have hlen := mailboxIoctl_length env fd (rspSz - 12) retval out hio
      rw [h] at hlen
      exact List.eq_nil_of_length_eq_zero (Nat.le_zero.mp hlen)
    rw [hout, ← fillBuf_nil]
    simp only
    split_ifs
    · rfl
    · rfl

theorem numSupportedFeatureEntries_zeros (o : ByteOrder) (n : ℕ) :
    numSupportedFeatureEntries o (zeros n) = 0 := by
  cases o with
  | little => rw [numSupportedFeatureEntries_little, slice_zeros, leVal_zeros]
  | big => exact numSupportedFeatureEntries_big (zeros n)

theorem getSupportedFeatures_zeros (o : ByteOrder) (count : U 32) (idx : U 16) (rsp : Bytes) (n : ℕ)
    (hn : 8 ≤ n) (h : payload rsp = zeros n) :
    (getSupportedFeatures count idx).decode o rsp = some ⟨0, 0, []⟩ := by
  have hfit : 8 + 0 * 48 ≤ (zeros n).length ∧ 0 < 2 ^ 31 := by
    rw [zeros_length]
    omega
  simp only [getSupportedFeatures, request, h, numSupportedFeatureEntries_zeros, getLe_zeros]
  rw [records, if_pos hfit]
  rfl

theorem view_readsNothing (c : Command α) (env : Env) (ep : Endpoint) (ti : Option TunnelInfo)
    (hc : ReadsNothing c) (htd : ep.transportData = none) (h : ¬Silent ep ti c.spec.set) (hd : tunnelDepth ti = 0) :
    view c.spec .little env ep ti = view c.spec .big env ep ti := by
  cases c
  case getSupportedFeatures count idx =>
    have hsz : (getSupportedFeatures count idx).rspSz .big - 12 = 8 + count.val := Nat.add_sub_cancel_left 12 _
    refine view_direct _ env ep ti _ rfl rfl ?_ rfl htd h hd fun req => ?_
    · simp only [Command.spec, getSupportedFeatures, request, putLe_big]
    · have hz := sendIoctlDirect_empty env ep.fd req ((getSupportedFeatures count idx).rspSz .big)
        (by rw [hsz, hc]; rfl)
      exact (getSupportedFeatures_zeros .little count idx _ _ (by omega) hz).trans
        (getSupportedFeatures_zeros .big count idx _ _ (by omega) hz).symm
  all_goals exact False.elim hc

theorem view_silent_orders (c : Command α) (env : Env) (ep : Endpoint) (ti : Option TunnelInfo) (plL plB : Bytes)
    (had : c.spec.admitted = true) (hL : c.spec.payload .little = some plL) (hB : c.spec.payload .big = some plB)
    (hsil : Silent ep ti c.spec.set)
    (h : SameSizes c ∨ (c.spec.checked = true ∧ ¬Confused ep ti c.spec.set)) :
    view c.spec .little env ep ti = view c.spec .big env ep ti := by
  by_cases hcon : Confused ep ti c.spec.set
  · have hsz := h.resolve_right fun h => h.2 hcon
    refine view_agree c.spec env ep ti plL plB had hL hB ((rspSz_big_iff c).mpr hsz) ?_
    rw [send_confused c.spec .little env ep ti plL hcon, send_confused c.spec .big env ep ti plB hcon]
    exact .none
  · cases hch : c.spec.checked with
    | true =>
      rw [view_silent c.spec .little env ep ti plL had hL hch hsil hcon,
        view_silent c.spec .big env ep ti plB had hB hch hsil hcon]
    | false =>
      have hsz := h.resolve_right fun h => Bool.false_ne_true (hch.symm.trans h.1)
      have hn := plain_neutral c ((unchecked_plain_iff c hch).mpr hsz)
      exact view_silent_neutral c.spec env ep ti plL hn had hL hsil hcon

theorem plain_of_cut (c : Command α) (t : TunnelInfo) (hk : knownLevel (some t) = true)
    (hd : tunnelDepth (some t) ≠ 0) (h : Cut (tunnelDepth (some t)) c.spec.plSz) :
    Plain c ∧ c.spec.checked = true := by
  have hl := knownLevel_cases t hk
  have hdep : tunnelDepth (some t) = t.level.toNat := rfl
  refine plain_of_large c ?_
  unfold Cut u32 at h
  omega

theorem view_transmitted (c : Command α) (env : Env) (ep : Endpoint) (ti : Option TunnelInfo) (pl : Bytes)
    (had : c.spec.admitted = true) (hpl : c.spec.payload .little = some pl) (hsil : ¬Silent ep ti c.spec.set)
    (h : SameOnWire c ep ti) : view c.spec .little env ep ti = view c.spec .big env ep ti := by
  cases htd : ep.transportData with
  | some td =>
    cases td with
    | mctp m =>
      rw [SameOnWire, htd] at h
      exact False.elim h
    | mock k =>
      rw [SameOnWire, htd] at h
      exact view_mock_neutral c.spec env ep ti pl k (plain_neutral c h) had hpl htd hsil
  | none =>
    rw [SameOnWire, htd] at h
    by_cases hd : tunnelDepth ti = 0
    · simp only [hd, if_true] at h
      rcases h with hp | hr
      · have hn := plain_neutral c hp
        exact view_direct c.spec env ep ti pl had hpl (hn.payload ▸ hpl) hn.rspSz htd hsil hd
          fun _ => hn.decode _ _ rfl rfl
      · exact view_readsNothing c env ep ti hr htd hsil hd
    · simp only [hd, if_false] at h
      cases ti with
      | none => exact absurd rfl hd
      | some t =>
        have hk := (known_of_mailbox ep (some t) _ htd hsil).1
        have hn := plain_neutral c (plain_of_cut c t hk hd h.1).1
        refine view_cut c.spec env ep t pl hn had hpl htd hsil hd ?_ h.2
        rw [c.spec.framed .little pl hpl]
        exact h.1

theorem payload_pair (c : Command α) (pl : Bytes) (h : c.spec.payload .little = some pl) :
    ∃ plB, c.spec.payload .big = some plB := by
  rw [← Option.ne_none_iff_exists', ne_eq, ← payload_big, h]
  exact Option.some_ne_none _

theorem view_orders (c : Command α) (env : Env) (ep : Endpoint) (ti : Option TunnelInfo)
    (h : c.spec.admitted = false ∨ c.spec.payload .little = none ∨ c.spec.supported = false ∨ OrderFree c ep ti) :
    view c.spec .little env ep ti = view c.spec .big env ep ti := by
  cases had : c.spec.admitted with
  | false => rw [view_not_admitted c.spec .little env ep ti had, view_not_admitted c.spec .big env ep ti had]
  | true =>
    have h := h.resolve_left fun hf => Bool.false_ne_true (hf.symm.trans had)
    cases hL : c.spec.payload .little with
    | none =>
      rw [view_no_payload c.spec .little env ep ti had hL,
        view_no_payload c.spec .big env ep ti had ((payload_big c).mp hL)]
    | some pl =>
      obtain ⟨plB, hB⟩ := payload_pair c pl hL
      rcases h with hpl | hsup | ⟨hsil, hs⟩ | ⟨hsil, hw⟩
      · exact absurd (hL.symm.trans hpl) (Option.some_ne_none _)
      · rw [view_eq c.spec .little env ep ti pl had hL, view_eq c.spec .big env ep ti plB had hB,
          if_pos (Or.inr (Or.inl hsup)), if_pos (Or.inr (Or.inl hsup))]
      · exact view_silent_orders c env ep ti pl plB had hL hB hsil hs
      · exact view_transmitted c env ep ti pl had hL hsil hw

theorem silent_withResponses (q : List MockResponse) (ep : Endpoint) (ti : Option TunnelInfo) (set : Byte) :
    Silent (withResponses q ep) ti set ↔ Silent ep ti set := by
  cases htd : ep.transportData with
  | none => simp only [withResponses, htd]
  | some td =>
    cases td with
    | mctp m => simp only [withResponses, htd]
    | mock k => simp only [withResponses, htd, Silent]

theorem orderFree_withResponses (c : Command α) (q : List MockResponse) (ep : Endpoint) (ti : Option TunnelInfo) :
    OrderFree c (withResponses q ep) ti ↔ OrderFree c ep ti := by
  cases htd : ep.transportData with
  | none => simp only [withResponses, htd]
  | some td =>
    cases td with
    | mctp m => simp only [withResponses, htd]
    | mock k =>
      rw [OrderFree, OrderFree, silent_withResponses]
      simp only [withResponses, htd, SameOnWire, Confused, Option.some.injEq, reduceCtorEq, false_and, exists_false]

end LibCxlmi.Contract
