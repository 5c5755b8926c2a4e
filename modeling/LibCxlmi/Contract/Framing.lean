import LibCxlmi.Commands.Table
import LibCxlmi.Contract.LengthFields

/-!
# Commands of any size

The commands whose request has a part of any size: Transfer FW, Set LSA, Set
Feature, Perform Maintenance and the vendor commands. What they transmit is
self-describing on the paths whose length fields have room for it, and on no
others.
-/

namespace LibCxlmi.Contract
open LibCxlmi.Word LibCxlmi.Cci LibCxlmi.Transport LibCxlmi.Commands

/-- The commands with a request of any size. -/
def sized {α : Type} : Command α → Bool
  | .transferFw _ => true
  | .setFeature _ => true
  | .performMaintenance _ _ _ => true
  | .vendorSpecific _ => true
  | .memdevSetLsa _ _ => true
  | _ => false

/-- What the mock recorded from a command with the payload `pl`, unless the
command did not get to it. -/
def Recorded (ep st : Endpoint) (pl : Bytes) : Prop :=
  ∀ k, st.transportData = some (.mock k) → st = ep ∨ k.lastPayload = pl

/-- Whatever happens to the command, what it transmits is framed and what a
mock records is its payload. Memory for the record is taken for granted. -/
def SelfDescribing {α : Type} (c : CciCommand α) (ep : Endpoint) (ti : Option TunnelInfo) (pl : Bytes) : Prop :=
  ∀ env r, (∀ n, env.alloc .mockPayload n = true) → c.run .little env ep ti = some r →
    (∀ tx ∈ r.sent, Framed (tunnelDepth ti) pl.length tx) ∧ Recorded ep r.st pl

variable {α : Type}

theorem sized_spec (c : Command α) (h : sized c = true) :
    c.spec.supported = true ∧ c.spec.checked = true ∧ 12 ≤ c.spec.rspSz .little ∧
      ∀ rsp, rsp.length = c.spec.rspSz .little → ∃ v, c.spec.decode .little rsp = some v := by
  cases c with
  | transferFw i => exact ⟨rfl, rfl, Nat.le_refl 12, fun _ _ => ⟨_, rfl⟩⟩
  | setFeature i => exact ⟨rfl, rfl, Nat.le_refl 12, fun _ _ => ⟨_, rfl⟩⟩
  | performMaintenance a b params => exact ⟨rfl, rfl, Nat.le_refl 12, fun _ _ => ⟨_, rfl⟩⟩
  | memdevSetLsa offset data => exact ⟨rfl, rfl, Nat.le_refl 12, fun _ _ => ⟨_, rfl⟩⟩
  | vendorSpecific i =>
    refine ⟨rfl, rfl, Nat.le_add_right 12 _, fun rsp hrsp => ?_⟩
    simp only [Command.spec, vendorSpecific] at hrsp ⊢
    split_ifs at hrsp ⊢
    · have hroom : 0 + i.retSize ≤ (payload rsp).length := by
        rw [payload, List.length_drop]
        omega
      exact ⟨_, by rw [copyOut, if_pos hroom]; rfl⟩
    · exact ⟨_, rfl⟩
  | _ => cases h

theorem selfDescribing_of_fits (c : CciCommand α) (ep : Endpoint) (ti : Option TunnelInfo) (pl : Bytes)
    (hpl : c.payload .little = some pl)
    (h : c.admitted = false ∨ Silent ep ti c.set ∨ Fits ep ti pl.length) : SelfDescribing c ep ti pl := by
  intro env r ha hr
  rcases c.run_cases .little env ep ti r hr with ⟨hs, hst⟩ | ⟨pl', s, had, hpl', -, hs, hf⟩
  · refine ⟨fun tx htx => ?_, fun k hk => Or.inl ?_⟩
    · rw [hs] at htx
      cases htx
    · rcases hst with hst | ⟨pl', hst⟩
      · exact hst
      · rw [hst] at hk ⊢
        exact armed_mock_only .little ep c.set c.cmd pl' k hk
  · obtain rfl := Option.some.inj (hpl'.symm.trans hpl)
    obtain ⟨tg, htg⟩ := armCciRequest_req .little ep c.set c.cmd pl'
    obtain ⟨-, hsent, hst⟩ := c.finish_eq .little s r hf
    have h : Silent ep ti c.set ∨ Fits ep ti pl'.length := by
      rw [had] at h
      exact h.resolve_left Bool.noConfusion
    constructor
    · intro tx htx
      rw [hsent] at htx
      have hout := sendCmdCci_sent .little env _ ti _ _ _ s hs tx htx
      rcases h with hsil | hfit
      · rw [silent_outbound_armed .little ep c.set c.cmd pl' ti hsil] at hout
        cases hout
      · rw [htg] at hout
        exact (outbound_framed _ ti tg c.cmd c.set pl' tx hout).mpr ((fits_armed ep c.set c.cmd pl' ti _).mpr hfit)
    · intro k hk
      rw [hst] at hk ⊢
      obtain ⟨k₀, hk₀⟩ := sendCmdCci_mock_only .little env _ ti _ _ _ s k hs hk
      have harm := armed_mock_only .little ep c.set c.cmd pl' k₀ hk₀
      rw [harm] at hk₀
      rw [armed_mock .little ep c.set c.cmd pl' k₀ hk₀] at hs
      cases hr : refused ep ti (cciHeader .little 0 c.cmd c.set pl'.length ++ pl') with
      | true =>
        rw [sendCmdCci_refused .little env ep ti _ _ _ hr] at hs
        exact Or.inl (Option.some.inj hs ▸ rfl)
      | false =>
        have hfit : pl'.length < 2 ^ 20 := by
          rcases h with hsil | hfit
          · have hnot : ¬refused ep ti (cciHeader .little 0 c.cmd c.set pl'.length ++ pl') = true := by
              rw [hr]
              exact Bool.false_ne_true
            rw [refused_iff, commandSet_cciHeader] at hnot
            rw [Silent, hk₀] at hsil
            exact absurd (or_assoc.mpr hsil) (not_or.mpr ⟨hnot, id⟩)
          · rw [Fits, hk₀] at hfit
            exact hfit
        rw [sendCmdCci_mock .little env ep k₀ ti _ _ _ hr hk₀] at hs
        rw [← Option.some.inj hs] at hk
        obtain rfl := TransportData.mock.inj (Option.some.inj hk)
        refine Or.inr ?_
        rw [(sendMockCmd_st .little env k₀ _ _).1, mockRecord_lastPayload .little env k₀ 0 c.cmd c.set pl' ha,
          Nat.mod_eq_of_lt hfit, List.take_length]

theorem not_selfDescribing_mock (c : Command α) (hc : sized c = true) (ep : Endpoint) (k : MockTransport)
    (ti : Option TunnelInfo) (pl : Bytes) (hpl : c.spec.payload .little = some pl) (had : c.spec.admitted = true)
    (hsil : ¬Silent ep ti c.spec.set) (hk : ep.transportData = some (.mock k)) (hp : 2 ^ 20 ≤ pl.length) :
    ¬SelfDescribing c.spec ep ti pl := by
  intro h
  obtain ⟨hsup, -, hsz, hdec⟩ := sized_spec c hc
  have hr := not_refused ep ti (cciHeader .little 0 c.spec.cmd c.spec.set pl.length ++ pl) hsil
  have hrun := c.spec.run_sends .little takesAll ep ti pl had hpl hsup rfl rfl
  rw [armed_mock .little ep _ _ pl k hk, sendCmdCci_mock .little takesAll ep k ti _ _ _ hr hk] at hrun
  obtain ⟨v, hv⟩ := hdec _ (sendMockCmd_rsp_length .little takesAll k
    (cciHeader .little 0 c.spec.cmd c.spec.set pl.length ++ pl) _ hsz)
  obtain ⟨r, hfin⟩ : ∃ r, c.spec.finish .little ((sendMockCmd .little takesAll k
      (cciHeader .little 0 c.spec.cmd c.spec.set pl.length ++ pl) (c.spec.rspSz .little)).map
        fun k => { ep with transportData := some (.mock k) }) = some r := by
    unfold CciCommand.finish
    split_ifs
    · exact ⟨_, rfl⟩
    · rw [Outcome.map, hv]
      exact ⟨_, rfl⟩
  rw [Option.bind_some, hfin] at hrun
  obtain ⟨-, -, hst⟩ := c.spec.finish_eq .little _ r hfin
  have hrec := (h takesAll r (fun _ => rfl) hrun).2
  have hst' := sendMockCmd_st .little takesAll k
    (cciHeader .little 0 c.spec.cmd c.spec.set pl.length ++ pl) (c.spec.rspSz .little)
  rw [mockRecord_lastPayload .little takesAll k 0 _ _ pl fun _ => rfl] at hst'
  rcases hrec _ (by rw [hst]; rfl) with hsame | hlast
  · -- the counter of sent commands has moved
    have hcount := congrArg Endpoint.transportData (hst.symm.trans hsame)
    rw [hk] at hcount
    have hk' := congrArg MockTransport.commandsSent (TransportData.mock.inj (Option.some.inj hcount))
    rw [hst'.2] at hk'
    unfold u32 at hk'
    omega
  · have hlen := congrArg List.length (hst'.1.symm.trans hlast)
    rw [List.length_take] at hlen
    omega

/-- The commands of any size are self-describing on the paths and for the sizes
that fit, and on no others. -/
theorem framed_iff (c : Command α) (hc : sized c = true) (ep : Endpoint) (ti : Option TunnelInfo) (pl : Bytes)
    (hpl : c.spec.payload .little = some pl) :
    SelfDescribing c.spec ep ti pl ↔
      c.spec.admitted = false ∨ Silent ep ti c.spec.set ∨ Fits ep ti pl.length := by
  refine ⟨fun h => ?_, selfDescribing_of_fits c.spec ep ti pl hpl⟩
  by_contra hn
  obtain ⟨had, hn⟩ := not_or.mp hn
  obtain ⟨hsil, hfit⟩ := not_or.mp hn
  rw [Bool.not_eq_false] at had
  obtain ⟨hsup, hch, -, -⟩ := sized_spec c hc
  by_cases hm : ∃ k, ep.transportData = some (.mock k)
  · obtain ⟨k, hk⟩ := hm
    rw [Fits, hk] at hfit
    exact not_selfDescribing_mock c hc ep k ti pl hpl had hsil hk (not_lt.mp hfit) h
  · obtain ⟨tx, hout⟩ := outbound_armed .little ep _ c.spec.cmd pl ti hsil fun k hk => hm ⟨k, hk⟩
    have hpath : ¬(ep.transportData = none ∧ tunnelDepth ti = 0) := by
      rintro ⟨htd, hd⟩
      rw [Fits, htd] at hfit
      exact hfit (Or.inl hd)
    obtain ⟨r, hrun, hsent⟩ := c.spec.run_takesAll .little ep ti pl tx had hpl hsup (Or.inl hch) hpath hout
    obtain ⟨tg, htg⟩ := armCciRequest_req .little ep c.spec.set c.spec.cmd pl
    rw [htg] at hout
    have hframed := (h takesAll r (fun _ => rfl) hrun).1 tx (by rw [hsent]; exact List.mem_singleton_self tx)
    rw [outbound_framed _ ti tg _ _ pl tx hout, fits_armed] at hframed
    exact hfit hframed

theorem setLsa_framed :
    sized (.memdevSetLsa 0x100 [1, 2, 3, 4]) = true ∧
      (Command.memdevSetLsa 0x100 [1, 2, 3, 4]).spec.payload .little =
        some [0, 1, 0, 0, 0, 0, 0, 0, 1, 2, 3, 4] ∧
      SelfDescribing (Command.memdevSetLsa 0x100 [1, 2, 3, 4]).spec mctpEndpoint (some (behindPort 0))
        [0, 1, 0, 0, 0, 0, 0, 0, 1, 2, 3, 4] :=
  ⟨rfl, rfl, (framed_iff (.memdevSetLsa 0x100 [1, 2, 3, 4]) rfl mctpEndpoint (some (behindPort 0)) _ rfl).mpr
    (Or.inr (Or.inr (show 12 + 16 * 0 + 12 < 2 ^ 16 by decide)))⟩

theorem tunnelledVendor_outbound (d : Bytes) :
    outbound .little (armCciRequest .little mctpEndpoint 0xC0 0x00 d).2 (some (behindPort 0))
        (armCciRequest .little mctpEndpoint 0xC0 0x00 d).1 =
      some (.mctp 5 mctpPort.fmapiAddr (transferred (buildTunnelReq .little (some 0x23) 0
        (cciHeader .little 0x22 0x00 0xC0 d.length ++ d)))) := rfl

/-- A vendor command with 65524 bytes of input, through a tunnel: the command
size of a 65536-byte message is transmitted as 0. -/
theorem vendorSpecific_tunnel_overflow :
    ∃ r msg, (vendorSpecific ⟨0xC000, true, zeros 65524, false, 0⟩).run .little takesAll mctpEndpoint
        (some (behindPort 0)) = some r ∧
      r.sent = [.mctp 5 mctpPort.fmapiAddr msg] ∧ (msg.drop 16).length = 65536 ∧ commandSize msg 12 = 0 := by
  have hlen : (cciHeader .little 0x22 0x00 0xC0 (zeros 65524).length ++ zeros 65524).length = 65536 := by
    rw [request_length, zeros_length]
  obtain ⟨r, hrun, hsent⟩ := (vendorSpecific ⟨0xC000, true, zeros 65524, false, 0⟩).run_takesAll .little
    mctpEndpoint (some (behindPort 0)) (zeros 65524) _ rfl rfl rfl (Or.inl rfl) (fun h => Option.some_ne_none _ h.1)
    (tunnelledVendor_outbound (zeros 65524))
  have hsmall : (buildTunnelReq .little (some 0x23) 0
      (cciHeader .little 0x22 0x00 0xC0 (zeros 65524).length ++ zeros 65524)).length ≤ maxRwCount := by
    rw [buildTunnelReq_length, hlen]
    decide
  rw [transferred_of_le _ hsmall] at hsent
  refine ⟨r, _, hrun, hsent, ?_, ?_⟩
  · rw [buildTunnelReq_drop]
    exact hlen
  · rw [commandSize_buildTunnelReq, hlen]
    exact Nat.mod_self _

end LibCxlmi.Contract
