import LibCxlmi.Run.Registry

/-!
# Which transport an endpoint is taken for

Endpoints carry no tag for their transport. A null `transport_data` is a
mailbox, and a first word equal to the magic number makes a mock of the rest,
whoever created it. An endpoint keeps the transport data it was created with,
so it is taken for what it is unless its network id is the magic number.
-/

namespace LibCxlmi.Contract
open LibCxlmi.Word LibCxlmi.Cci LibCxlmi.Transport LibCxlmi.Commands LibCxlmi.Run

inductive Code where
  | mailbox
  | mctp
  | mock
  deriving DecidableEq, Repr

/-- The branch that `send_cmd_cci` and `cxlmi_close` take. -/
def transportCode (ep : Endpoint) : Code :=
  if isMockEndpoint ep then .mock else if ep.transportData.isSome then .mctp else .mailbox

/-- `arm_cci_request` takes a tag from the counter of MCTP transport data. -/
def takesTag (ep : Endpoint) : Bool := ep.transportData.isSome && !isMockEndpoint ep

/-- What the transport data really is. -/
def kind (ep : Endpoint) : Code :=
  match ep.transportData with
  | none => .mailbox
  | some (.mctp _) => .mctp
  | some (.mock _) => .mock

theorem transportCode_eq_kind_iff (ep : Endpoint) : transportCode ep = kind ep ↔ ep.Identified := by
  cases htd : ep.transportData with
  | none =>
    refine iff_of_true ?_ (identified_of_not_mctp ep fun m hm => ?_)
    · simp only [transportCode, kind, isMockEndpoint, htd, Bool.false_eq_true, if_false, Option.isSome_none]
    · rw [htd] at hm
      cases hm
  | some td =>
    cases td with
    | mock k =>
      refine iff_of_true ?_ (identified_of_not_mctp ep fun m hm => ?_)
      · simp only [transportCode, kind, isMockEndpoint, htd, if_true]
      · rw [htd] at hm
        cases hm
    | mctp m =>
      rw [identified_mctp ep m htd, Ne, ← isMockEndpoint_mctp ep m htd]
      cases hi : isMockEndpoint ep with
      | true => simp only [transportCode, kind, hi, htd, if_true, reduceCtorEq, not_true_eq_false]
      | false =>
        simp only [transportCode, kind, hi, htd, Bool.false_eq_true, if_false, Option.isSome_some, if_true,
          not_false_eq_true]

/-! ### What the branch decides -/

/-- A command that is not refused is undefined if the branch is not that of the
transport data. -/
theorem sendCmdCci_branch (o : ByteOrder) (env : Env) (ep : Endpoint) (ti : Option TunnelInfo) (req : Bytes)
    (rspSz rspMin : ℕ) (h : refused ep ti req = false) :
    sendCmdCci o env ep ti req rspSz rspMin = none ↔ transportCode ep ≠ kind ep := by
  have hnot := (refused_iff ep ti req).not.mp (Bool.eq_false_iff.mp h)
  rw [sendCmdCci_none_iff, Ne, transportCode_eq_kind_iff, not_identified_iff]
  constructor
  · intro hc
    exact hc.2.2
  · intro hm
    exact ⟨(not_or.mp hnot).1, (not_or.mp hnot).2, hm⟩

theorem cxlmiClose_branch (ctx : Ctx) (i : ℕ) (r : Registered) (hr : ctx.endpoints[i]? = some r) :
    cxlmiClose ctx i = none ↔ transportCode r.ep ≠ kind r.ep := by
  rw [Ne, transportCode_eq_kind_iff]
  rcases cxlmiClose_cases ctx i with ⟨h, s, hs, hbad⟩ | ⟨h, hgood⟩
  · obtain rfl := Option.some.inj (hr.symm.trans hs)
    exact iff_of_true h hbad
  · rw [h]
    exact iff_of_false (Option.some_ne_none _) fun hn => hn (hgood r hr)

theorem takesTag_iff (o : ByteOrder) (ep : Endpoint) (set cmd : Byte) (pl : Bytes) :
    takesTag ep = true ↔ ∃ m, ep.transportData = some (.mctp m) ∧
      (armCciRequest o ep set cmd pl).2 = { ep with transportData := some (.mctp (m.advance 1)) } := by
  cases htd : ep.transportData with
  | none => simp only [takesTag, htd, Option.isSome_none, Bool.false_and, Bool.false_eq_true, reduceCtorEq,
      false_and, exists_false]
  | some td =>
    cases td with
    | mock k => simp only [takesTag, isMockEndpoint, htd, Bool.not_true, Bool.and_false, Bool.false_eq_true,
        Option.some.injEq, reduceCtorEq, false_and, exists_false]
    | mctp m =>
      cases hi : isMockEndpoint ep with
      | false =>
        refine iff_of_true (by simp only [takesTag, htd, hi, Option.isSome_some, Bool.not_false, Bool.and_self])
          ⟨m, rfl, ?_⟩
        simp only [armCciRequest, htd, hi, Bool.false_eq_true, if_false]
      | true =>
        refine iff_of_false (by simp only [takesTag, hi, Bool.not_true, Bool.and_false, Bool.false_eq_true,
          not_false_eq_true]) ?_
        -- the counter stays where it is
        rintro ⟨m', hm', harm⟩
        obtain rfl := TransportData.mctp.inj (Option.some.inj hm')
        simp only [armCciRequest, htd, hi, if_true] at harm
        have htag := congrArg Endpoint.transportData harm
        rw [htd] at htag
        have hlt := congrArg MctpTransport.tag (TransportData.mctp.inj (Option.some.inj htag))
        exact absurd hlt (Nat.ne_of_lt (Nat.lt_succ_self m.tag))

/-! ### Endpoints and their creators -/

inductive Creation where
  | opening (op : Opening)
  | mock

def Creation.run (o : ByteOrder) : Creation → Option Endpoint
  | .opening op => (op.run o).map Life.ep
  | .mock => some ⟨some (.mock freshMock), -1, true⟩

def Creation.code : Creation → Code
  | .opening (.mctp _ _ _ _ _ _) => .mctp
  | .opening (.mailbox _ _) => .mailbox
  | .mock => .mock

def Creation.HasMagic : Creation → Prop
  | .opening (.mctp nid _ _ _ _ _) => nid = mockMagic
  | _ => False

/-- A command on the endpoint, whatever becomes of it. -/
structure Use where
  env : Env
  ti : Option TunnelInfo
  set : Byte
  cmd : Byte
  pl : Bytes
  rspSz : ℕ
  rspMin : ℕ

def Use.step (o : ByteOrder) (ep : Endpoint) (u : Use) : Option Endpoint :=
  (sendCmdCci o u.env (armCciRequest o ep u.set u.cmd u.pl).2 u.ti (armCciRequest o ep u.set u.cmd u.pl).1 u.rspSz
    u.rspMin).map Outcome.st

/-- The endpoint is still the one its creator made. -/
def MadeBy (c : Creation) (ep : Endpoint) : Prop :=
  match c with
  | .opening (.mctp nid _ _ _ _ _) => ∃ m, ep.transportData = some (.mctp m) ∧ m.nid = nid
  | .opening (.mailbox _ _) => ep.transportData = none
  | .mock => ∃ k, ep.transportData = some (.mock k)

theorem madeBy_kind (c : Creation) (ep : Endpoint) (h : MadeBy c ep) : kind ep = c.code := by
  cases c with
  | mock =>
    obtain ⟨k, hk⟩ := h
    simp only [kind, hk, Creation.code]
  | opening op =>
    cases op with
    | mailbox fd probe =>
      have hn : ep.transportData = none := h
      simp only [kind, hn, Creation.code]
    | mctp nid eid sd probe env sock =>
      obtain ⟨m, hm, -⟩ := h
      simp only [kind, hm, Creation.code]

theorem madeBy_identified (c : Creation) (ep : Endpoint) (h : MadeBy c ep) : ep.Identified ↔ ¬c.HasMagic := by
  cases c with
  | mock =>
    obtain ⟨k, hk⟩ := h
    refine iff_of_true (identified_of_not_mctp ep fun m hm => ?_) id
    rw [hk] at hm
    cases hm
  | opening op =>
    cases op with
    | mailbox fd probe =>
      have hn : ep.transportData = none := h
      refine iff_of_true (identified_of_not_mctp ep fun m hm => ?_) id
      rw [hn] at hm
      cases hm
    | mctp nid eid sd probe env sock =>
      obtain ⟨m, hm, rfl⟩ := h
      exact identified_mctp ep m hm

theorem madeBy_run (o : ByteOrder) (c : Creation) (ep : Endpoint) (h : c.run o = some ep) : MadeBy c ep := by
  cases c with
  | mock => exact ⟨freshMock, by rw [← Option.some.inj h]⟩
  | opening op =>
    obtain ⟨l, hl, rfl⟩ := Option.map_eq_some_iff.mp h
    cases op with
    | mailbox fd probe =>
      cases probe with
      | false => rw [← Option.some.inj hl]; rfl
      | true => rw [← Option.some.inj hl]; rfl
    | mctp nid eid sd probe env sock =>
      obtain ⟨m, hm, hn, -⟩ := opening_identity o nid eid sd probe env sock l hl
      exact ⟨m, hm, hn⟩

theorem madeBy_sameLink (c : Creation) (a b : Endpoint) (h : MadeBy c a) (hc : c ≠ .mock) (hs : SameLink a b) :
    MadeBy c b := by
  cases c with
  | mock => exact absurd rfl hc
  | opening op =>
    cases op with
    | mailbox fd probe => exact hs.2.2.1 h
    | mctp nid eid sd probe env sock =>
      obtain ⟨m, hm, hn⟩ := h
      obtain ⟨k, hk⟩ := hs.2.2.2 m hm
      exact ⟨m.advance k, hk, hn⟩

/- A command on a mock leaves a mock. -/
theorem mock_step (o : ByteOrder) (ep ep' : Endpoint) (u : Use) (k : MockTransport)
    (hk : ep.transportData = some (.mock k)) (h : u.step o ep = some ep') :
    ∃ k', ep'.transportData = some (.mock k') := by
  obtain ⟨r, hr, rfl⟩ := Option.map_eq_some_iff.mp h
  rw [armed_mock o ep u.set u.cmd u.pl k hk] at hr
  cases href : refused ep u.ti (cciHeader o 0 u.cmd u.set u.pl.length ++ u.pl) with
  | true =>
    rw [sendCmdCci_refused o u.env ep u.ti _ u.rspSz u.rspMin href] at hr
    exact ⟨k, Option.some.inj hr ▸ hk⟩
  | false =>
    rw [sendCmdCci_mock o u.env ep k u.ti _ u.rspSz u.rspMin href hk] at hr
    rw [← Option.some.inj hr]
    exact ⟨_, rfl⟩

theorem madeBy_step (o : ByteOrder) (c : Creation) (ep ep' : Endpoint) (u : Use) (h : MadeBy c ep)
    (hs : u.step o ep = some ep') : MadeBy c ep' := by
  by_cases hc : c = .mock
  · subst hc
    obtain ⟨k, hk⟩ := h
    exact mock_step o ep ep' u k hk hs
  · obtain ⟨r, hr, rfl⟩ := Option.map_eq_some_iff.mp hs
    exact madeBy_sameLink c ep r.st h hc (sameLink_trans _ _ _ (armCciRequest_sameLink o ep u.set u.cmd u.pl)
      (sendCmdCci_sameLink o u.env _ u.ti _ u.rspSz u.rspMin r hr))

theorem use_defined (o : ByteOrder) (ep : Endpoint) (u : Use) (h : ep.Identified) : ∃ ep', u.step o ep = some ep' := by
  obtain ⟨r, hr⟩ := command_defined o u.env ep u.ti u.set u.cmd u.pl u.rspSz u.rspMin h
  exact ⟨r.st, Option.map_eq_some_iff.mpr ⟨r, hr, rfl⟩⟩

theorem creation_defined (o : ByteOrder) (c : Creation) (h : ¬c.HasMagic) : ∃ ep, c.run o = some ep := by
  cases c with
  | mock => exact ⟨_, rfl⟩
  | opening op =>
    cases op with
    | mailbox fd probe =>
      cases probe with
      | false => exact ⟨_, rfl⟩
      | true => exact ⟨_, rfl⟩
    | mctp nid eid sd probe env sock =>
      rw [← Option.ne_none_iff_exists', Creation.run, Ne, Option.map_eq_none_iff, opening_none_iff]
      exact fun hn => h hn.1

/-- The endpoint is taken for what `c` made, by commands, by the allocation of
tags and by close. -/
def TakenFor (c : Code) (ep : Endpoint) : Prop :=
  (isMockEndpoint ep = true ↔ c = .mock) ∧ transportCode ep = c ∧ (takesTag ep = true ↔ c = .mctp)

theorem transportCode_mock_iff (ep : Endpoint) : transportCode ep = .mock ↔ isMockEndpoint ep = true := by
  unfold transportCode
  split_ifs with hm hs
  · exact iff_of_true rfl hm
  · exact iff_of_false id hm
  · exact iff_of_false id hm

theorem transportCode_mctp_iff (ep : Endpoint) : transportCode ep = .mctp ↔ takesTag ep = true := by
  unfold transportCode takesTag
  rw [Bool.and_eq_true, Bool.not_eq_true']
  split_ifs with hm hs
  · exact iff_of_false id fun h => by rw [h.2] at hm; cases hm
  · exact iff_of_true rfl ⟨hs, Bool.eq_false_iff.mpr hm⟩
  · exact iff_of_false id fun h => hs h.1

theorem takenFor_iff (ep : Endpoint) : TakenFor (kind ep) ep ↔ ep.Identified := by
  constructor
  · intro h
    exact (transportCode_eq_kind_iff ep).mp h.2.1
  · intro h
    have hcode := (transportCode_eq_kind_iff ep).mpr h
    exact ⟨by rw [← hcode, transportCode_mock_iff], hcode, by rw [← hcode, transportCode_mctp_iff]⟩

/-- An endpoint is created, used for any commands, and still taken for what its
creator made exactly if it is not an MCTP endpoint of the magic network id. -/
theorem identification_exact_iff (o : ByteOrder) (c : Creation) (us : List Use) :
    (∃ ep ep', c.run o = some ep ∧ us.foldlM (Use.step o) ep = some ep' ∧ TakenFor c.code ep') ↔ ¬c.HasMagic := by
  constructor
  · rintro ⟨ep, ep', hep, hus, htaken⟩
    have hmade : MadeBy c ep' := foldlM_invariant (Use.step o) (MadeBy c)
      (fun s u s' hs hstep => madeBy_step o c s s' u hs hstep) us ep ep' (madeBy_run o c ep hep) hus
    rw [← madeBy_kind c ep' hmade, takenFor_iff] at htaken
    exact (madeBy_identified c ep' hmade).mp htaken
  · intro hc
    obtain ⟨ep, hep⟩ := creation_defined o c hc
    obtain ⟨ep', hus, hmade⟩ := foldlM_defined (Use.step o) (MadeBy c) (fun s u hs => by
      obtain ⟨s', hs'⟩ := use_defined o s u ((madeBy_identified c s hs).mpr hc)
      exact ⟨s', hs', madeBy_step o c s s' u hs hs'⟩) us ep (madeBy_run o c ep hep)
    refine ⟨ep, ep', hep, hus, ?_⟩
    rw [← madeBy_kind c ep' hmade, takenFor_iff]
    exact (madeBy_identified c ep' hmade).mpr hc

/- Network id 0x4D4F434B, opened without a probe: a mock for everything that
asks, so that the first command is undefined. -/
theorem magic_nid_taken_for_mock :
    ∃ ep, (Creation.opening (.mctp mockMagic 8 5 false takesAll 6)).run .little = some ep ∧ kind ep = .mctp ∧
      isMockEndpoint ep = true ∧ transportCode ep = .mock ∧ takesTag ep = false ∧
      Use.step .little ep ⟨takesAll, none, 0x00, 0x1, [], 30, 30⟩ = none :=
  ⟨_, rfl, rfl, rfl, rfl, rfl, rfl⟩

end LibCxlmi.Contract
