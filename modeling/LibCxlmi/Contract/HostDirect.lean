import LibCxlmi.Contract.HostDifference

/-!
# Byte-order independence of the commands

Without a CCI header the hosts can still be told apart by the payload, the value
decoded from a reply, and the size of the response they allocate. With this every
case in which the condition `OrderFree` fails has its device, and the condition
is exact.
-/

namespace LibCxlmi.Contract
open LibCxlmi.Word LibCxlmi.Cci LibCxlmi.Transport LibCxlmi.Commands

variable {α : Type}

/-- A mock, or a mailbox without a tunnel. -/
def Direct (ep : Endpoint) (ti : Option TunnelInfo) : Prop :=
  (∃ k, ep.transportData = some (.mock k)) ∨ (ep.transportData = none ∧ tunnelDepth ti = 0)

/-- A mailbox that returns `code` and `out`, on a host whose memory is given. -/
def replying (alloc : AllocSite → ℕ → Bool) (code : U 16) (out : Bytes) : Env :=
  ⟨alloc, true, 0, .timedOut, .error, .done code out⟩

def room (ep : Endpoint) (n : ℕ) : ℕ := if ep.transportData = none then u32 n else n

/-- What is transmitted, or recorded, of a payload. -/
def carried (ep : Endpoint) (op : ℕ) (pl : Bytes) : List Tx × Option Bytes :=
  if ep.transportData = none then ([mailboxTx ep.fd op pl], none) else ([], some (pl.take (pl.length % 2 ^ 20)))

theorem carried_inj (ep : Endpoint) (op : ℕ) (p q : Bytes) (hp : p.length < 2 ^ 20) (hq : q.length < 2 ^ 20)
    (h : carried ep op p = carried ep op q) : p = q := by
  have htake : ∀ b : Bytes, b.length < 2 ^ 20 → b.take (u32 b.length) = b ∧ b.take (b.length % 2 ^ 20) = b := by
    intro b hb
    rw [u32_of_lt b.length (by omega), Nat.mod_eq_of_lt hb, List.take_length]
    exact ⟨rfl, rfl⟩
  unfold carried mailboxTx at h
  split_ifs at h
  · rw [(htake p hp).1, (htake q hq).1] at h
    injection h with h _
    injection h with h _
    injection h
  · rw [(htake p hp).2, (htake q hq).2] at h
    injection h with _ h
    injection h

theorem sendIoctlDirect_replying (alloc : AllocSite → ℕ → Bool) (fd : ℤ) (req : Bytes) (rspSz : ℕ) (code : U 16)
    (out : Bytes) (hfd : 0 ≤ fd) (r : Outcome Unit)
    (hr : r = sendIoctlDirect (replying alloc code out) fd req rspSz) :
    r.rc = code.val ∧ payload r.rsp = fillBuf (rspSz - 12) (out.take (u32 (rspSz - 12))) ∧
      r.sent = [mailboxTx fd (rawOpcode req) (payload req)] := by
  have hio : mailboxIoctl (replying alloc code out) fd (rspSz - 12) = .done code (out.take (u32 (rspSz - 12))) :=
    if_neg (not_lt.mpr hfd)
  simp only [sendIoctlDirect, hio] at hr
  split_ifs at hr with hc
  · rw [hr]
    exact ⟨rfl, rfl, rfl⟩
  · have hc : code = 0 := not_not.mp hc
    rw [hr, hc]
    exact ⟨rfl, rfl, rfl⟩

theorem sendMockCmd_replying (o : ByteOrder) (env : Env) (k : MockTransport) (req : Bytes) (rspSz : ℕ) (code : U 16)
    (out : Bytes) (hq : k.responses = [⟨commandSet req, command req, code, out⟩]) (r : Outcome MockTransport)
    (hr : r = sendMockCmd o env k req rspSz) :
    r.rc = code.val ∧ payload r.rsp = fillBuf (rspSz - 12) (out.take (rspSz - 12)) := by
  have hfind : mockFindResponse (commandSet req) (command req) (mockRecord env k req).responses =
      some (⟨commandSet req, command req, code, out⟩, []) := by
    have hrec : (mockRecord env k req).responses = k.responses := rfl
    rw [hrec, hq, mockFindResponse, if_pos ⟨rfl, rfl⟩]
  simp only [sendMockCmd, hfind] at hr
  rw [hr]
  refine ⟨rfl, List.drop_left' ?_⟩
  simp only [List.length_append, leBytes_length, storeWord_length, zeros_length, List.length_cons, List.length_nil]

theorem send_direct (c : CciCommand α) (o : ByteOrder) (alloc : AllocSite → ℕ → Bool) (ep : Endpoint)
    (ti : Option TunnelInfo) (pl : Bytes) (code : U 16) (out : Bytes) (hdir : Direct ep ti)
    (hsil : ¬Silent ep ti c.set) (ha : ∀ n, alloc .mockPayload n = true) :
    ∃ r, send c o (replying alloc code out) (withResponses [⟨c.set, c.cmd, code, out⟩] ep) ti pl = some r ∧
      r.rc = code.val ∧
      payload r.rsp = fillBuf (c.rspSz o - 12) (out.take (room ep (c.rspSz o - 12))) ∧
      (r.sent, recorded r.st) = carried ep (c.cmd.val ||| (c.set.val <<< 8)) pl := by
  rcases hdir with ⟨k, hk⟩ | ⟨htd, hd⟩
  · have hne : ep.transportData ≠ none := by
      rw [hk]
      exact Option.some_ne_none _
    obtain ⟨hrc, hpl⟩ := sendMockCmd_replying o (replying alloc code out)
      { k with responses := [⟨c.set, c.cmd, code, out⟩] } (cciHeader o 0 c.cmd c.set pl.length ++ pl) (c.rspSz o) code
      out rfl _ rfl
    refine ⟨_, send_mock c o _ _ ti pl _ (withResponses_mock _ ep k hk) (by rwa [silent_withResponses]), hrc, ?_, ?_⟩
    · rw [room, if_neg hne]
      exact hpl
    · rw [carried, if_neg hne]
      simp only [Outcome.map, sendMockCmd_sent, recorded, (sendMockCmd_st _ _ _ _ _).1]
      rw [mockRecord_lastPayload o _ _ 0 c.cmd c.set pl ha]
  · obtain ⟨hk, hfd⟩ := known_of_mailbox ep ti c.set htd hsil
    obtain ⟨hrc, hpl, hsent⟩ := sendIoctlDirect_replying alloc ep.fd (cciHeader o 0 c.cmd c.set pl.length ++ pl)
      (c.rspSz o) code out hfd _ rfl
    rw [withResponses_of_not_mock _ ep (by rw [htd]; rintro k ⟨⟩), send_mailbox c o _ ep ti pl htd hsil,
      sendIoctl_untunnelled o _ _ _ _ _ _ hk hd]
    refine ⟨_, rfl, hrc, ?_, ?_⟩
    · rw [room, if_pos htd]
      exact hpl
    · rw [carried, if_pos htd]
      simp only [Outcome.map, hsent, recorded, htd, payload_cciHeader, rawOpcode, command_cciHeader,
        commandSet_cciHeader]

theorem view_sends (c : CciCommand α) (o : ByteOrder) (env : Env) (ep : Endpoint) (ti : Option TunnelInfo)
    (pl : Bytes) (had : c.admitted = true) (hpl : c.payload o = some pl) (hsup : c.supported = true)
    (hreq : ∀ n, env.alloc .request n = true) (hrsp : env.alloc .response (c.rspSz o) = true) :
    view c o env ep ti = ((send c o env ep ti pl).bind (c.finish o)).map seen := by
  rw [view, c.run_sends o env ep ti pl had hpl hsup (hreq _) hrsp]
  rfl

theorem dependent_payload (c : CciCommand α) (ep : Endpoint) (ti : Option TunnelInfo) (plL plB : Bytes)
    (had : c.admitted = true) (hL : c.payload .little = some plL) (hB : c.payload .big = some plB)
    (hsup : c.supported = true) (hch : c.checked = true) (hsz : c.plSz < 2 ^ 20) (hdir : Direct ep ti)
    (hsil : ¬Silent ep ti c.set) (hne : plL ≠ plB) : ¬HostIndependent c ep ti := by
  intro h
  obtain ⟨rL, hrL, hcL, -, hcarL⟩ := send_direct c .little (fun _ _ => true) ep ti plL 1 [] hdir hsil fun _ => rfl
  obtain ⟨rB, hrB, hcB, -, hcarB⟩ := send_direct c .big (fun _ _ => true) ep ti plB 1 [] hdir hsil fun _ => rfl
  have hv := h (replying (fun _ _ => true) 1 []) [⟨c.set, c.cmd, 1, []⟩]
  rw [view_sends c .little _ _ ti plL had hL hsup (fun _ => rfl) rfl,
    view_sends c .big _ _ ti plB had hB hsup (fun _ => rfl) rfl, hrL, hrB, Option.bind_some, Option.bind_some,
    c.finish_failed .little rL hch (by rw [hcL]; decide), c.finish_failed .big rB hch (by rw [hcB]; decide)] at hv
  have hseen := Option.some.inj hv
  have hsent : rL.sent = rB.sent := congrArg Seen.sent hseen
  have hrec : recorded rL.st = recorded rB.st := congrArg Seen.recorded hseen
  rw [hsent, hrec, hcarB] at hcarL
  have hlenL := c.framed .little plL hL
  have hlenB := c.framed .big plB hB
  exact hne (carried_inj ep _ plB plL (by omega) (by omega) hcarL).symm

theorem dependent_decode (c : CciCommand α) (ep : Endpoint) (ti : Option TunnelInfo) (plL plB out : Bytes)
    (had : c.admitted = true) (hL : c.payload .little = some plL) (hB : c.payload .big = some plB)
    (hsup : c.supported = true) (hsz : c.rspSz .little = c.rspSz .big) (hdir : Direct ep ti)
    (hsil : ¬Silent ep ti c.set)
    (hdec : ∀ a b, payload a = fillBuf (c.rspSz .little - 12) (out.take (room ep (c.rspSz .little - 12))) →
      payload b = payload a → c.decode .little a ≠ c.decode .big b) : ¬HostIndependent c ep ti := by
  intro h
  obtain ⟨rL, hrL, hcL, hpL, -⟩ := send_direct c .little (fun _ _ => true) ep ti plL 0 out hdir hsil fun _ => rfl
  obtain ⟨rB, hrB, hcB, hpB, -⟩ := send_direct c .big (fun _ _ => true) ep ti plB 0 out hdir hsil fun _ => rfl
  have hv := h (replying (fun _ _ => true) 0 out) [⟨c.set, c.cmd, 0, out⟩]
  rw [view_sends c .little _ _ ti plL had hL hsup (fun _ => rfl) rfl,
    view_sends c .big _ _ ti plB had hB hsup (fun _ => rfl) rfl, hrL, hrB, Option.bind_some, Option.bind_some] at hv
  have hok : ∀ r : Outcome Endpoint, r.rc = (0 : U 16).val → ¬(c.checked = true ∧ r.rc ≠ 0) :=
    fun r hr hc => hc.2 hr
  rw [CciCommand.finish, CciCommand.finish, if_neg (hok rL hcL), if_neg (hok rB hcB), Option.map_map,
    Option.map_map] at hv
  refine hdec rL.rsp rB.rsp hpL (by rw [hpL, hpB, hsz]) ?_
  have hval := congrArg (Option.map Seen.value) hv
  rw [Option.map_map, Option.map_map] at hval
  exact Option.map_injective (Option.some_injective α) hval

/-! ### By the size of the response -/

/-- Memory for every message but responses of another size. -/
def onlyResponse (n : ℕ) : AllocSite → ℕ → Bool
  | .response, m => m == n
  | _, _ => true

theorem view_starved (c : CciCommand α) (o : ByteOrder) (n : ℕ) (code : U 16) (out : Bytes) (ep : Endpoint)
    (ti : Option TunnelInfo) (pl : Bytes) (had : c.admitted = true) (hpl : c.payload o = some pl)
    (hheap : c.rspHeap = true) (hn : c.rspSz o ≠ n) :
    view c o (replying (onlyResponse n) code out) ep ti = some (unseen ep) := by
  rw [view_eq c o _ ep ti pl had hpl, if_pos (Or.inr (Or.inr ⟨hheap, beq_eq_false_iff_ne.mpr hn⟩))]

theorem dependent_size (c : CciCommand α) (ep : Endpoint) (ti : Option TunnelInfo) (plL plB : Bytes)
    (had : c.admitted = true) (hL : c.payload .little = some plL) (hB : c.payload .big = some plB)
    (hsup : c.supported = true) (hheap : c.rspHeap = true) (hsz : c.rspSz .little ≠ c.rspSz .big)
    (hdir : Direct ep ti) (hsil : ¬Silent ep ti c.set) : ¬HostIndependent c ep ti := by
  intro h
  obtain ⟨r, hr, hc, -, -⟩ := send_direct c .little (onlyResponse (c.rspSz .little)) ep ti plL 0 [] hdir hsil
    fun _ => rfl
  have hv := h (replying (onlyResponse (c.rspSz .little)) 0 []) [⟨c.set, c.cmd, 0, []⟩]
  rw [view_starved c .big _ 0 [] _ ti plB had hB hheap hsz.symm,
    view_sends c .little _ _ ti plL had hL hsup (fun _ => rfl) (beq_self_eq_true _), hr, Option.bind_some] at hv
  obtain ⟨x, hx, hseen⟩ := Option.map_eq_some_iff.mp hv
  have hrc : x.rc = -1 := congrArg Seen.rc hseen
  rw [(c.finish_eq .little r x hx).1, hc] at hrc
  exact absurd hrc (by decide)

theorem dependent_silent (c : CciCommand α) (ep : Endpoint) (ti : Option TunnelInfo) (plL plB : Bytes)
    (had : c.admitted = true) (hL : c.payload .little = some plL) (hB : c.payload .big = some plB)
    (hsup : c.supported = true) (hfin : c.Finishes .little) (hheap : c.rspHeap = true)
    (hsz : c.rspSz .little ≠ c.rspSz .big) (hsil : Silent ep ti c.set)
    (hc : c.checked = true → Confused ep ti c.set) : ¬HostIndependent c ep ti := by
  intro h
  have hv := h (replying (onlyResponse (c.rspSz .little)) 0 []) []
  rw [view_starved c .big _ 0 [] _ ti plB had hB hheap hsz.symm,
    view_sends c .little _ _ ti plL had hL hsup (fun _ => rfl) (beq_self_eq_true _)] at hv
  by_cases hcon : Confused ep ti c.set
  · rw [send_confused c .little _ _ ti plL ((confused_withResponses [] ep ti c.set).mpr hcon)] at hv
    cases hv
  · obtain ⟨st, hs, -⟩ := send_silent c .little (replying (onlyResponse (c.rspSz .little)) 0 [])
      (withResponses [] ep) ti plL ((silent_withResponses [] ep ti c.set).mpr hsil)
      (mt (confused_withResponses [] ep ti c.set).mp hcon)
    -- the zeroed response is decoded all the same
    obtain ⟨v, hv'⟩ := hfin.resolve_left (mt hc hcon)
    have hnot : ¬(c.checked = true ∧ (failOutcome (c.rspSz .little) st).rc ≠ 0) := fun h => hcon (hc h.1)
    rw [hs, Option.bind_some, CciCommand.finish, if_neg hnot, failOutcome, hv'] at hv
    have hval := congrArg Seen.value (Option.some.inj hv)
    cases hval

/-! ### The commands -/

theorem getSupportedFeatures_one (count : U 32) (idx : U 16) (a b : Bytes) (n : ℕ) (hn : 8 ≤ n)
    (ha : payload a = fillBuf n [1]) (hb : payload b = payload a) :
    (getSupportedFeatures count idx).decode .little a ≠ (getSupportedFeatures count idx).decode .big b := by
  intro h
  have hfit : 8 + 0 * 48 ≤ (fillBuf n [1]).length ∧ 0 < 2 ^ 31 := by
    rw [fillBuf_length n [1] (by rw [List.length_singleton]; omega)]
    omega
  have hone : leVal (slice (fillBuf n [1]) 0 2) = 1 := by
    have hs : slice (fillBuf n [1]) 0 2 = [1, byteAt (zeros (n - 1)) 0] := rfl
    rw [hs, byteAt_zeros]
    rfl
  simp only [getSupportedFeatures, request, hb, ha, numSupportedFeatureEntries_little, numSupportedFeatureEntries_big,
    hone] at h
  rw [records, records, if_pos hfit] at h
  obtain ⟨es, -, hes⟩ := Option.map_eq_some_iff.mp h
  have hnum : 1 = 0 := congrArg GetSupportedFeaturesRsp.numSupportedFeatureEntries hes
  exact absurd hnum (by decide)

theorem dependent_direct (c : Command α) (ep : Endpoint) (ti : Option TunnelInfo) (hp : ¬Plain c)
    (hr : ep.transportData = none → ¬ReadsNothing c) (hdir : Direct ep ti) (hsil : ¬Silent ep ti c.spec.set) :
    ¬HostIndependent c.spec ep ti := by
  have hsize := (rspSz_big_iff c).mp
  cases c
  case getSupportedFeatures count idx =>
    refine dependent_decode (getSupportedFeatures count idx) ep ti _ _ [1] rfl rfl rfl rfl rfl hdir hsil
      fun a b ha hb => ?_
    have hsz : (getSupportedFeatures count idx).rspSz .little - 12 = 8 + count.val := Nat.add_sub_cancel_left 12 _
    have hroom : 1 ≤ room ep (8 + count.val) := by
      unfold room
      split_ifs with htd
      · have hc : count.val ≠ 2 ^ 32 - 8 := hr htd
        have hlt := count.isLt
        unfold u32
        omega
      · omega
    rw [hsz, List.take_of_length_le hroom] at ha
    exact getSupportedFeatures_one count idx a b _ (Nat.le_add_right 8 _) ha hb
  case memdevGetDcExtentList extentCnt startExtentIdx =>
    refine dependent_payload (memdevGetDcExtentList extentCnt startExtentIdx) ep ti _ _ rfl rfl rfl rfl rfl
      (show 8 < 2 ^ 20 by decide) hdir hsil fun h => hp ?_
    refine (sameClamp_iff extentCnt).mp (List.append_inj_left h ?_)
    rw [storeWord_length, storeWord_length]
  case fmapiGetDcRegionExtList i =>
    exact dependent_size (fmapiGetDcRegionExtList i) ep ti _ _ rfl rfl rfl rfl rfl (fun h => hp (hsize h)) hdir hsil
  case fmapiDcListTags startIdx tagsCount =>
    exact dependent_size (fmapiDcListTags startIdx tagsCount) ep ti _ _ rfl rfl rfl rfl rfl (fun h => hp (hsize h))
      hdir hsil
  all_goals exact absurd trivial hp

theorem dependent_transmitted (c : Command α) (ep : Endpoint) (ti : Option TunnelInfo) (plL plB : Bytes)
    (had : c.spec.admitted = true) (hL : c.spec.payload .little = some plL) (hB : c.spec.payload .big = some plB)
    (hsup : c.spec.supported = true) (hsil : ¬Silent ep ti c.spec.set) (h : ¬SameOnWire c ep ti) :
    ¬HostIndependent c.spec ep ti := by
  cases htd : ep.transportData with
  | some td =>
    cases td with
    | mctp m => exact dependent_mctp c.spec ep m ti plL plB had hL hB hsup (finishes c) htd hsil
    | mock k =>
      rw [SameOnWire, htd] at h
      exact dependent_direct c ep ti h (fun hn => absurd (htd.symm.trans hn) (Option.some_ne_none _))
        (Or.inl ⟨k, htd⟩) hsil
  | none =>
    rw [SameOnWire, htd] at h
    by_cases hd : tunnelDepth ti = 0
    · simp only [hd, if_true, not_or] at h
      exact dependent_direct c ep ti h.1 (fun _ => h.2) (Or.inr ⟨htd, hd⟩) hsil
    · simp only [hd, if_false] at h
      cases ti with
      | none => exact absurd rfl hd
      | some t =>
        by_cases hcut : Cut (tunnelDepth (some t)) c.spec.plSz
        · have hk := (known_of_mailbox ep (some t) _ htd hsil).1
          obtain ⟨hp, hch⟩ := plain_of_cut c t hk hd hcut
          exact dependent_reply c.spec ep t plL plB had hL hB hsup hch (plain_neutral c hp).rspSz (rspMin_big c)
            (twelve_le_rspMin c) htd hsil hd (not_not.mp fun hans => h ⟨hcut, hans⟩)
        · exact dependent_tunnel c.spec ep t plL plB had hL hB hsup (finishes c) htd hsil hd hcut

/-- A command does not depend on the byte order of its host exactly when it ends
at its arguments, or is `OrderFree`. -/
theorem hostIndependent_iff (c : Command α) (ep : Endpoint) (ti : Option TunnelInfo) :
    HostIndependent c.spec ep ti ↔
      c.spec.admitted = false ∨ c.spec.payload .little = none ∨ c.spec.supported = false ∨ OrderFree c ep ti := by
  constructor
  · intro h
    by_contra hn
    obtain ⟨had, hn⟩ := not_or.mp hn
    obtain ⟨hpl, hn⟩ := not_or.mp hn
    obtain ⟨hsup, hn⟩ := not_or.mp hn
    rw [Bool.not_eq_false] at had hsup
    obtain ⟨plL, hL⟩ := Option.ne_none_iff_exists'.mp hpl
    obtain ⟨plB, hB⟩ := payload_pair c plL hL
    obtain ⟨hs, hw⟩ := not_or.mp hn
    by_cases hsil : Silent ep ti c.spec.set
    · obtain ⟨hsz, hc⟩ := not_or.mp (not_and.mp hs hsil)
      exact dependent_silent c.spec ep ti plL plB had hL hB hsup (finishes c _) (rspHeap_of_not_sameSizes c hsz)
        (mt (rspSz_big_iff c).mp hsz) hsil (fun hch => not_not.mp fun hcon => hc ⟨hch, hcon⟩) h
    · exact dependent_transmitted c ep ti plL plB had hL hB hsup hsil (not_and.mp hw hsil) h
  · intro h env q
    refine view_orders c env (withResponses q ep) ti ?_
    rwa [orderFree_withResponses]

/-- Identify over MCTP transmits its status bytes in host order, and a mailbox
that reports one supported feature has none on a big-endian host. -/
theorem hosts_differ :
    (view identify .little takesAll mctpEndpoint none).map Seen.sent =
        some [.mctp 4 mctpPort.addr [0, 0x22, 0, 1, 0, 0, 0, 0, 0, 0, 0xcd, 0xab]] ∧
      (view identify .big takesAll mctpEndpoint none).map Seen.sent =
        some [.mctp 4 mctpPort.addr [0, 0x22, 0, 1, 0, 0, 0, 0, 0, 0, 0xab, 0xcd]] ∧
      (view (getSupportedFeatures 48 0) .little (mailboxAnswers 0 [1, 0]) switchMailbox none).map
        (fun s => (s.rc, s.value.map GetSupportedFeaturesRsp.numSupportedFeatureEntries)) = some (0, some 1) ∧
      (view (getSupportedFeatures 48 0) .big (mailboxAnswers 0 [1, 0]) switchMailbox none).map
        (fun s => (s.rc, s.value.map GetSupportedFeaturesRsp.numSupportedFeatureEntries)) = some (0, some 0) := by
  decide +kernel

end LibCxlmi.Contract
