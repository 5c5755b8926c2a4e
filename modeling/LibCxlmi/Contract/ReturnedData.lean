import LibCxlmi.Commands.Table

/-!
# Raw data the caller is given

Get Log, the Command Effects Log, Get LSA, Security Receive and a vendor command
with an output buffer copy as many bytes out of the response as the caller asked
for. Whether the device sent that many is left to the transport.
-/

namespace LibCxlmi.Contract
open LibCxlmi.Word LibCxlmi.Cci LibCxlmi.Transport LibCxlmi.Commands

variable {α : Type}

/-- The number of bytes a raw-data command asks for. -/
def wanted : Command α → Option ℕ
  | .getLog i => some i.length
  | .getLogCel i => some i.length
  | .memdevGetLsa _ length => some length
  | .memdevSecurityReceive securityProtocol _ => some (protoSize securityProtocol)
  | .vendorSpecific i => if i.retPtr then some i.retSize else none
  | _ => none

/-- The bytes in the caller's buffer; an entry of the log is two words. -/
def handedBytes : Command α → α → Bytes
  | .getLog _, v => v
  | .getLogCel _, v => v.flatMap fun e => leBytes 2 e.opcode ++ leBytes 2 e.commandEffect
  | .memdevGetLsa _ _, v => v
  | .memdevSecurityReceive _ _, v => v
  | .vendorSpecific _, v => v.getD []
  | _, _ => []

/- The first entry of the caller's log is cleared before any is copied, also
when not even one was asked for. -/
def AsksEntry : Command α → Prop
  | .getLogCel i => 4 ≤ i.length.val
  | _ => True

theorem wanted_sizes (c : Command α) (w : ℕ) (hw : wanted c = some w) (o : ByteOrder) :
    c.spec.rspSz o = 12 + w ∧ c.spec.rspMin o = 12 + w := by
  cases c
  case getLog i | getLogCel i =>
    obtain rfl := Option.some.inj hw
    exact ⟨rfl, rfl⟩
  case memdevGetLsa | memdevSecurityReceive =>
    obtain rfl := Option.some.inj hw
    exact ⟨rfl, rfl⟩
  case vendorSpecific i =>
    simp only [wanted] at hw
    split_ifs at hw with hp
    obtain rfl := Option.some.inj hw
    simp only [Command.spec, vendorSpecific, hp, if_true, and_self]
  all_goals cases hw

/-! ### The Command Effects Log -/

theorem celEntry_bytes (o : ByteOrder) (r : Bytes) (h : r.length = 4) :
    leBytes 2 (getLe o 2 r 0) ++ leBytes 2 (getLe o 2 r 2) = r := by
  have hword : ∀ i, leBytes 2 (leVal (slice r i 2)) = slice r i 2 := fun i => by
    have hb := leBytes_leVal (slice r i 2)
    rwa [slice_length] at hb
  rw [getLe_eq, getLe_eq, hword, hword, ← slice_add, slice_self r 4 h]

theorem cel_handed (o : ByteOrder) (i : GetLogReq) (rsp : Bytes) (v : List CelEntry)
    (hv : (getLogCel i).decode o rsp = some v) :
    handedBytes (.getLogCel i) v =
      if i.length.val < 4 then zeros 4 else slice (payload rsp) 0 (i.length / 4 * 4) := by
  simp only [getLogCel, request] at hv
  obtain ⟨es, hes, rfl⟩ := Option.map_eq_some_iff.mp hv
  unfold records at hes
  split_ifs at hes
  obtain rfl := Option.some.inj hes
  by_cases h4 : i.length.val < 4
  · have hz : i.length.val / 4 = 0 := Nat.div_eq_of_lt h4
    rw [if_pos h4, hz]
    rfl
  · have hne : (List.range (i.length.val / 4)).map
        (fun k => CelEntry.mk (getLe o 2 (slice (payload rsp) (0 + k * 4) 4) 0)
          (getLe o 2 (slice (payload rsp) (0 + k * 4) 4) 2)) ≠ [] := by
      intro hc
      have hl := congrArg List.length hc
      rw [List.length_map, List.length_range, List.length_nil] at hl
      omega
    rw [if_neg h4, if_neg hne, handedBytes, List.flatMap_map, ← slice_chunks]
    congr 1
    funext k
    exact celEntry_bytes o _ (slice_length _ _ 4)

/-! ### What the decoders hand over -/

theorem copyOut_all (m : Bytes) (n : ℕ) (b : Bytes) (h : m.length = n) (hb : copyOut m 0 n = some b) : b = m := by
  unfold copyOut at hb
  split_ifs at hb
  rw [← Option.some.inj hb, slice_self m n h]

/-- A decoder hands over the front of the payload, or an entry that is not
there. -/
theorem handed_cases (c : Command α) (w : ℕ) (hw : wanted c = some w) (o : ByteOrder) (rsp : Bytes) (v : α)
    (hlen : (payload rsp).length = w) (hv : c.spec.decode o rsp = some v) :
    (AsksEntry c ∧ ∃ n, handedBytes c v = (payload rsp).take n) ∨
      (¬AsksEntry c ∧ w < (handedBytes c v).length) := by
  cases c
  case getLog i =>
    obtain rfl := Option.some.inj hw
    exact Or.inl ⟨trivial, _, (copyOut_all _ _ v hlen hv).trans (List.take_of_length_le (Nat.le_of_eq hlen)).symm⟩
  case memdevGetLsa offset length =>
    obtain rfl := Option.some.inj hw
    exact Or.inl ⟨trivial, _, (copyOut_all _ _ v hlen hv).trans (List.take_of_length_le (Nat.le_of_eq hlen)).symm⟩
  case memdevSecurityReceive p s =>
    obtain rfl := Option.some.inj hw
    exact Or.inl ⟨trivial, _, (copyOut_all _ _ v hlen hv).trans (List.take_of_length_le (Nat.le_of_eq hlen)).symm⟩
  case vendorSpecific i =>
    simp only [wanted] at hw
    split_ifs at hw with hp
    obtain rfl := Option.some.inj hw
    simp only [Command.spec, vendorSpecific, hp, if_true] at hv
    obtain ⟨b, hb, rfl⟩ := Option.map_eq_some_iff.mp hv
    exact Or.inl ⟨trivial, _, (copyOut_all _ _ b hlen hb).trans (List.take_of_length_le (Nat.le_of_eq hlen)).symm⟩
  case getLogCel i =>
    obtain rfl := Option.some.inj hw
    have hh := cel_handed o i rsp v hv
    by_cases h4 : i.length.val < 4
    · refine Or.inr ⟨Nat.not_le.mpr h4, ?_⟩
      rw [hh, if_pos h4, zeros_length]
      exact h4
    · refine Or.inl ⟨Nat.not_lt.mp h4, i.length / 4 * 4, ?_⟩
      rw [hh, if_neg h4, slice_take_self]
      omega
  all_goals cases hw

/-- A raw-data command that returned 0 handed over what the device sent, and
all that was asked for, if the transport checks the size or the device sent
enough, and a whole entry of the log was asked for. -/
theorem handed_data_sent_iff (c : Command α) (w : ℕ) (hw : wanted c = some w) (o : ByteOrder) (env : Env)
    (ep : Endpoint) (ti : Option TunnelInfo) (r : Reply α) (hrun : c.spec.run o env ep ti = some r)
    (h0 : r.rc = 0) :
    (∃ v, r.value = some v ∧ w ≤ (returned env ep ti c.spec.set c.spec.cmd (12 + w)).length ∧
        handedBytes c v <+: returned env ep ti c.spec.set c.spec.cmd (12 + w)) ↔
      (SizeChecked ep ti ∨ w ≤ (returned env ep ti c.spec.set c.spec.cmd (12 + w)).length) ∧ AsksEntry c := by
  obtain ⟨hsz, hmin⟩ := wanted_sizes c w hw o
  obtain ⟨pl, s, v, hsends, hrc, hv, hval⟩ := c.spec.run_success o env ep ti r hrun h0
  obtain ⟨hleaves, hchk⟩ := c.spec.sends_leaves o env ep ti pl s hsends hrc
  rw [hsz, hmin, Nat.add_sub_cancel_left] at hchk
  rw [hsz] at hleaves
  have hpl := hleaves.payload
  have hfits := hleaves.fits
  rw [Nat.add_sub_cancel_left] at hpl hfits
  have hlen : (payload s.rsp).length = w := by rw [hpl, fillBuf_length w _ hfits]
  have hcases := handed_cases c w hw o s.rsp v hlen hv
  constructor
  · rintro ⟨v', hv', hall, hsent⟩
    obtain rfl := Option.some.inj (hval.symm.trans hv')
    refine ⟨Or.inr hall, ?_⟩
    rcases hcases with ⟨hask, -⟩ | ⟨-, hlong⟩
    · exact hask
    · have hle := hsent.length_le
      omega
  · rintro ⟨hback, hask⟩
    have hall := hback.elim hchk id
    rcases hcases with ⟨-, n, hn⟩ | ⟨hno, -⟩
    · refine ⟨v, hval, hall, ?_⟩
      have hfull : payload s.rsp = returned env ep ti c.spec.set c.spec.cmd (12 + w) := by
        rw [hpl, fillBuf, Nat.sub_eq_zero_of_le hall]
        exact List.append_nil _
      rw [hn, hfull]
      exact List.take_prefix n _
    · exact absurd hask hno

/- Two bytes of a label storage area, from a mailbox and from a mock. -/
def memdevMailbox : Endpoint := ⟨none, 3, false⟩

def lsaMock : Endpoint := ⟨some (.mock ⟨[⟨0x41, 0x2, 0, [0xaa, 0xbb]⟩], 0, 0, 0, 0, []⟩), -1, false⟩

theorem lsa_handed_whole :
    ∃ r v, (memdevGetLsa 0 2).run .little takesAll lsaMock none = some r ∧ r.value = some v ∧
      v <+: returned takesAll lsaMock none 0x41 0x2 14 := by
  obtain ⟨r, hr, h0⟩ : ∃ r, (memdevGetLsa 0 2).run .little takesAll lsaMock none = some r ∧ r.rc = 0 := ⟨_, rfl, rfl⟩
  obtain ⟨v, hv, -, hsent⟩ := (handed_data_sent_iff (.memdevGetLsa 0 2) 2 rfl .little takesAll lsaMock none r hr h0).mpr
    ⟨Or.inr (by decide), trivial⟩
  exact ⟨r, v, hr, hv, hsent⟩

/- Four bytes are asked for; the last two are not the device's. -/
theorem short_lsa_padded :
    (∃ r, (memdevGetLsa 0 4).run .little (mailboxAnswers 0 [0xaa, 0xbb]) memdevMailbox none = some r ∧ r.rc = 0 ∧
      r.value = some [0xaa, 0xbb, 0, 0] ∧
      returned (mailboxAnswers 0 [0xaa, 0xbb]) memdevMailbox none 0x41 0x2 16 = [0xaa, 0xbb]) ∧
    ∃ r, (memdevGetLsa 0 4).run .little takesAll lsaMock none = some r ∧ r.rc = 0 ∧
      r.value = some [0xaa, 0xbb, 0, 0] ∧ returned takesAll lsaMock none 0x41 0x2 16 = [0xaa, 0xbb] :=
  ⟨⟨_, rfl, rfl, rfl, rfl⟩, ⟨_, rfl, rfl, rfl, rfl⟩⟩

end LibCxlmi.Contract
