import LibCxlmi.Contract.HostOrder

/-!
# Devices that tell the hosts apart by a header

A command that is transmitted with its CCI header, over MCTP or through a tunnel,
differs between the hosts: by what it transmits, or by the code it reads from a
reply.
-/

namespace LibCxlmi.Contract
open LibCxlmi.Word LibCxlmi.Cci LibCxlmi.Transport LibCxlmi.Commands

variable {α : Type}

theorem withResponses_of_not_mock (q : List MockResponse) (ep : Endpoint)
    (h : ∀ k, ep.transportData ≠ some (.mock k)) : withResponses q ep = ep := by
  unfold withResponses
  split
  · exact absurd (by assumption) (h _)
  · rfl

theorem withResponses_mock (q : List MockResponse) (ep : Endpoint) (k : MockTransport)
    (h : ep.transportData = some (.mock k)) :
    (withResponses q ep).transportData = some (.mock { k with responses := q }) := by
  simp only [withResponses, h]

theorem confused_withResponses (q : List MockResponse) (ep : Endpoint) (ti : Option TunnelInfo) (set : Byte) :
    Confused (withResponses q ep) ti set ↔ Confused ep ti set := by
  cases htd : ep.transportData with
  | none => simp only [withResponses, htd]
  | some td =>
    cases td with
    | mctp m => simp only [withResponses, htd]
    | mock k => simp only [withResponses, htd, Confused, Option.some.injEq, reduceCtorEq, false_and, exists_false]

/-! ### By the transmitted bytes -/

theorem same_tx (c : CciCommand α) (ep : Endpoint) (ti : Option TunnelInfo) (plL plB : Bytes) (txL txB : Tx)
    (had : c.admitted = true) (hL : c.payload .little = some plL) (hB : c.payload .big = some plB)
    (hsup : c.supported = true) (hfin : ∀ o, c.Finishes o) (hm : ∀ k, ep.transportData ≠ some (.mock k))
    (hpath : ¬(ep.transportData = none ∧ tunnelDepth ti = 0))
    (houtL : outbound .little (armCciRequest .little ep c.set c.cmd plL).2 ti
      (armCciRequest .little ep c.set c.cmd plL).1 = some txL)
    (houtB : outbound .big (armCciRequest .big ep c.set c.cmd plB).2 ti
      (armCciRequest .big ep c.set c.cmd plB).1 = some txB)
    (h : HostIndependent c ep ti) : txL = txB := by
  obtain ⟨rL, hrL, hsL⟩ := c.run_takesAll .little ep ti plL txL had hL hsup (hfin _) hpath houtL
  obtain ⟨rB, hrB, hsB⟩ := c.run_takesAll .big ep ti plB txB had hB hsup (hfin _) hpath houtB
  have hv := h takesAll []
  rw [withResponses_of_not_mock [] ep hm, view, view, hrL, hrB] at hv
  have hsent : rL.sent = rB.sent := congrArg Seen.sent (Option.some.inj hv)
  rw [hsL, hsB] at hsent
  exact List.singleton_inj.mp hsent

theorem dependent_mctp (c : CciCommand α) (ep : Endpoint) (m : MctpTransport) (ti : Option TunnelInfo)
    (plL plB : Bytes) (had : c.admitted = true) (hL : c.payload .little = some plL)
    (hB : c.payload .big = some plB) (hsup : c.supported = true) (hfin : ∀ o, c.Finishes o)
    (htd : ep.transportData = some (.mctp m)) (hsil : ¬Silent ep ti c.set) : ¬HostIndependent c ep ti := by
  intro h
  have hn : m.nid ≠ mockMagic := by
    intro hn
    refine hsil (Or.inr (Or.inr ?_))
    rw [htd]
    exact Or.inr (Or.inl hn)
  have hout := fun o pl => outbound_mctp o (armCciRequest o ep c.set c.cmd pl).2 (m.advance 1) ti
    (armCciRequest o ep c.set c.cmd pl).1 (by rw [commandSet_armed, silent_armed]; exact hsil)
    (by rw [armCciRequest_mctp o ep m c.set c.cmd pl htd hn])
  have htx := same_tx c ep ti plL plB _ _ had hL hB hsup hfin (by rw [htd]; rintro k ⟨⟩) (by rw [htd]; rintro ⟨⟨⟩, -⟩)
    (hout _ _) (hout _ _) h
  simp only [armCciRequest_mctp _ ep m c.set c.cmd _ htd hn, Tx.mctp.injEq] at htx
  exact transferred_mctpMsg_ne _ ti _ _ (byteAt_status _ _ _ _ _ _) (byteAt_status _ _ _ _ _ _) htx.2.2

theorem outbound_tunnelled (c : CciCommand α) (o : ByteOrder) (ep : Endpoint) (t : TunnelInfo) (pl : Bytes)
    (htd : ep.transportData = none) (hsil : ¬Silent ep (some t) c.set) (hd : tunnelDepth (some t) ≠ 0) :
    outbound o (armCciRequest o ep c.set c.cmd pl).2 (some t) (armCciRequest o ep c.set c.cmd pl).1 =
      some (mailboxTx ep.fd 0x5300 (ioctlTunnelReq o (outerId t)
        (mailboxInner o t (cciHeader o 0 c.cmd c.set pl.length ++ pl)))) := by
  have h0 : t.level ≠ 0 := by
    intro h0
    refine hd ?_
    rw [tunnelDepth, h0]
    rfl
  rw [armed_mailbox o ep c.set c.cmd pl htd, outbound_mailbox o ep (some t) _ (by rwa [commandSet_cciHeader]) htd]
  simp only [mailboxMsg, h0, if_false, mailboxTunnelReq_eq]

theorem mailboxInner_status (o : ByteOrder) (t : TunnelInfo) (tg cmd set : Byte) (pl : Bytes) :
    byteAt (mailboxInner o t (cciHeader o tg cmd set pl.length ++ pl)) 10 = statusByte o := by
  unfold mailboxInner
  split_ifs
  · exact byteAt_status o _ _ _ _ _
  · exact buildTunnelReq_status o _ _ _

theorem dependent_tunnel (c : CciCommand α) (ep : Endpoint) (t : TunnelInfo) (plL plB : Bytes)
    (had : c.admitted = true) (hL : c.payload .little = some plL) (hB : c.payload .big = some plB)
    (hsup : c.supported = true) (hfin : ∀ o, c.Finishes o) (htd : ep.transportData = none)
    (hsil : ¬Silent ep (some t) c.set) (hd : tunnelDepth (some t) ≠ 0) (hcut : ¬Cut (tunnelDepth (some t)) c.plSz) :
    ¬HostIndependent c ep (some t) := by
  intro h
  have hk := (known_of_mailbox ep (some t) c.set htd hsil).1
  have htx := same_tx c ep (some t) plL plB _ _ had hL hB hsup hfin (by rw [htd]; rintro k ⟨⟩) (fun hp => hd hp.2)
    (outbound_tunnelled c .little ep t plL htd hsil hd) (outbound_tunnelled c .big ep t plB htd hsil hd) h
  have hlL := cut_iff .little t 0 c.cmd c.set plL hk hd
  have hlB := cut_iff .big t 0 c.cmd c.set plB hk hd
  have hplL := c.framed .little plL hL
  have hplB := c.framed .big plB hB
  have hlen : 16 * tunnelDepth (some t) + plB.length = 16 * tunnelDepth (some t) + plL.length := by rw [hplL, hplB]
  rw [← hlB, ← hlL] at hlen
  rw [mailboxTx, mailboxTx, ioctlTunnelReq_length, ioctlTunnelReq_length, hlen] at htx
  injection htx with _ _ htx
  refine ioctlTunnelReq_take_ne (outerId t) _ _ (Nat.add_left_cancel hlen).symm (mailboxInner_status _ t _ _ _ _)
    (mailboxInner_status _ t _ _ _ _) ?_ htx
  rw [Cut, not_le] at hcut
  rw [hlL, hplL]
  exact hcut

/-! ### By the code of a tunnelled reply -/

theorem errorOut_inner (t : TunnelInfo) (tg cmd set : Byte) (plL plB : Bytes) (n : ℕ) :
    errorOut (mailboxInner .little t (cciHeader .little tg cmd set plL.length ++ plL)) n =
      errorOut (mailboxInner .big t (cciHeader .big tg cmd set plB.length ++ plB)) n := by
  unfold mailboxInner
  split_ifs
  · rfl
  · rfl

theorem view_errorReply (c : CciCommand α) (o : ByteOrder) (ep : Endpoint) (t : TunnelInfo) (pl out : Bytes) (k : ℕ)
    (had : c.admitted = true) (hpl : c.payload o = some pl) (hsup : c.supported = true) (hch : c.checked = true)
    (hmin : 12 ≤ c.rspMin o) (htd : ep.transportData = none) (hsil : ¬Silent ep (some t) c.set)
    (hd : tunnelDepth (some t) = k + 1) (hans : Answerable k (c.rspSz o) (c.rspMin o))
    (hout : out = errorOut (mailboxInner o t (cciHeader o 0 c.cmd c.set pl.length ++ pl)) (16 * k + c.rspMin o)) :
    ∃ s, view c o (mailboxAnswers 0 out) ep (some t) = some s ∧ s.rc = errorCode o := by
  obtain ⟨hk, hfd⟩ := known_of_mailbox ep (some t) c.set htd hsil
  have hl := knownLevel_cases t hk
  have hdep : t.level.toNat = k + 1 := hd
  have hcode : (sendIoctl o (mailboxAnswers 0 out) ep.fd (some t) (cciHeader o 0 c.cmd c.set pl.length ++ pl)
      (c.rspSz o) (c.rspMin o)).rc = errorCode o := by
    rw [sendIoctl_tunnel_alloc o _ ep.fd t _ _ _ k (by omega) (by omega) fun _ _ => rfl, mailboxTunnelReq_eq]
    refine sendIoctlTunnelled_errorOut o _ ep.fd k _ _ _ ?_ hfd hmin hans
    rw [ioctlTunnelReq_drop, ← hout]
    exact ⟨fun _ _ => rfl, rfl⟩
  have hne : (sendIoctl o (mailboxAnswers 0 out) ep.fd (some t) (cciHeader o 0 c.cmd c.set pl.length ++ pl)
      (c.rspSz o) (c.rspMin o)).rc ≠ 0 := by
    rw [hcode]
    cases o with
    | little => decide
    | big => decide
  have hview := c.run_sends o (mailboxAnswers 0 out) ep (some t) pl had hpl hsup rfl rfl
  rw [← send, send_mailbox c o _ ep (some t) pl htd hsil, Option.bind_some, c.finish_failed o _ hch hne] at hview
  exact ⟨_, by rw [view, hview, Option.map_some], hcode⟩

theorem dependent_reply (c : CciCommand α) (ep : Endpoint) (t : TunnelInfo) (plL plB : Bytes)
    (had : c.admitted = true) (hL : c.payload .little = some plL) (hB : c.payload .big = some plB)
    (hsup : c.supported = true) (hch : c.checked = true) (hsz : c.rspSz .little = c.rspSz .big)
    (hminEq : c.rspMin .little = c.rspMin .big) (hmin : 12 ≤ c.rspMin .little) (htd : ep.transportData = none)
    (hsil : ¬Silent ep (some t) c.set) (hd : tunnelDepth (some t) ≠ 0)
    (hans : Answerable (tunnelDepth (some t) - 1) (c.rspSz .little) (c.rspMin .little)) :
    ¬HostIndependent c ep (some t) := by
  intro h
  obtain ⟨k, hk⟩ := Nat.exists_eq_succ_of_ne_zero hd
  rw [hk, Nat.succ_sub_one] at hans
  obtain ⟨sL, hvL, hcL⟩ := view_errorReply c .little ep t plL _ k had hL hsup hch hmin htd hsil hk hans rfl
  have hansB := hans
  rw [hsz, hminEq] at hansB
  obtain ⟨sB, hvB, hcB⟩ := view_errorReply c .big ep t plB _ k had hB hsup hch (hminEq ▸ hmin) htd hsil hk hansB rfl
  rw [← errorOut_inner t 0 c.cmd c.set plL plB, ← hminEq] at hvB
  have hv := fun env => h env []
  rw [withResponses_of_not_mock [] ep (by rw [htd]; rintro k ⟨⟩)] at hv
  have hcode : (errorCode .little : ℤ) = errorCode .big := by
    rw [← hcL, ← hcB, Option.some.inj (hvL.symm.trans ((hv _).trans hvB))]
  exact absurd hcode (by decide)

end LibCxlmi.Contract
