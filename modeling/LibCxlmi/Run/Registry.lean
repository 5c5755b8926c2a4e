import LibCxlmi.Run.Lifecycle

/-!
# The endpoints of a context (cxlmi.c:192-207, 322-346, 1290-1353, 1632-1731, mock.c:55-88)

Opening puts an endpoint at the front of the list of its context, closing takes
it off. Every system call of an open may fail; the arguments say what it gave.
The loop against duplicates in `cxlmi_open_mctp` reads the transport data of
every endpoint that has any as that of MCTP, mocks included. `none` is MCTP data
that is used as that of a mock.
-/

namespace LibCxlmi.Run
open LibCxlmi.Word LibCxlmi.Cci LibCxlmi.Transport LibCxlmi.Commands

/-- An endpoint on the list. Only a mailbox endpoint has a device name. -/
structure Registered where
  devname : Option Bytes
  ep : Endpoint
  named : devname ≠ none → ep.transportData = none

structure Ctx where
  probeEnabled : Bool
  endpoints : List Registered

def Ctx.add (ctx : Ctx) (r : Registered) : Ctx := { ctx with endpoints := r :: ctx.endpoints }

/-- `init_endpoint`: the endpoint is on the list before it is opened. -/
def initEndpoint (ctx : Ctx) : Ctx := ctx.add ⟨none, ⟨none, -1, false⟩, fun _ => rfl⟩

/-- Closes the endpoint at position `i`; past the end there is none, which is
the null pointer. -/
def cxlmiClose (ctx : Ctx) (i : ℕ) : Option Ctx :=
  match ctx.endpoints[i]? with
  | none => some ctx
  | some r =>
      match r.ep.transportData with
      | some (.mctp _) =>
          if isMockEndpoint r.ep then none else some { ctx with endpoints := ctx.endpoints.eraseIdx i }
      | _ => some { ctx with endpoints := ctx.endpoints.eraseIdx i }

inductive OpenResult where
  | opened
  | failed
  | duplicate
  deriving DecidableEq, Repr

/- What `calloc`, `open` and `strdup` give `cxlmi_open`. -/
structure DevSys where
  epAlloc : Bool
  fd : ℤ
  strdup : Bool

def cxlmiOpen (ctx : Ctx) (devname : Bytes) (sys : DevSys) : Option (Ctx × OpenResult) :=
  if ctx.endpoints.any fun r => r.devname == some devname then some (ctx, .duplicate)
  else if sys.epAlloc = false then some (ctx, .failed)
  else if sys.fd < 0 ∨ sys.strdup = false then (cxlmiClose (initEndpoint ctx) 0).map fun c => (c, .failed)
  else some (ctx.add ⟨some devname, ⟨none, sys.fd, ctx.probeEnabled⟩, fun _ => rfl⟩, .opened)

structure MctpSys where
  epAlloc : Bool
  mctpAlloc : Bool
  sd : ℤ
  probe : Env
  fmapiSd : ℤ

/-- What the loop against duplicates takes for network id and eid. Of a mock it
finds the magic number and a byte of padding, which `calloc` has cleared. -/
def scannedId (ep : Endpoint) : Option (U 32 × Byte) :=
  match ep.transportData with
  | none => none
  | some (.mctp m) => some (m.nid, m.eid)
  | some (.mock _) => some (mockMagic, 0)

def MctpSys.opening (sys : MctpSys) (netid : U 32) (eid : Byte) (probeEnabled : Bool) : Opening :=
  .mctp netid eid sys.sd.toNat probeEnabled sys.probe sys.fmapiSd

def cxlmiOpenMctp (o : ByteOrder) (ctx : Ctx) (netid : U 32) (eid : Byte) (sys : MctpSys) :
    Option (Ctx × OpenResult) :=
  if ctx.endpoints.any fun r => scannedId r.ep == some (netid, eid) then some (ctx, .duplicate)
  else if sys.epAlloc = false then some (ctx, .failed)
  else if sys.mctpAlloc = false ∨ sys.sd < 0 then (cxlmiClose (initEndpoint ctx) 0).map fun c => (c, .failed)
  else ((sys.opening netid eid ctx.probeEnabled).run o).map fun l =>
    (ctx.add ⟨none, l.ep, fun h => absurd rfl h⟩, .opened)

structure MockSys where
  epAlloc : Bool
  mockAlloc : Bool

def freshMock : MockTransport := ⟨[], 0, 0, 0, 0, []⟩

def cxlmiOpenMock (ctx : Ctx) (sys : MockSys) : Ctx × OpenResult :=
  if sys.epAlloc = false ∨ sys.mockAlloc = false then (ctx, .failed)
  else (ctx.add ⟨none, ⟨some (.mock freshMock), -1, true⟩, fun h => absurd rfl h⟩, .opened)

/-! ### What an endpoint is -/

inductive Identity where
  | mailbox (devname : Option Bytes)
  | mctp (nid : U 32) (eid : Byte)
  | mock
  deriving DecidableEq, Repr

def Registered.identity (r : Registered) : Identity :=
  match r.ep.transportData with
  | none => .mailbox r.devname
  | some (.mctp m) => .mctp m.nid m.eid
  | some (.mock _) => .mock

/-! ### Runs of calls -/

/-- One call of an open function, with the list before and after it. -/
structure OpenEvent where
  asked : Identity
  before : List Registered
  result : OpenResult
  after : List Registered

def logged (asked : Identity) (ctx : Ctx) (r : Option (Ctx × OpenResult)) : Option (Ctx × List OpenEvent) :=
  r.map fun (c, res) => (c, [⟨asked, ctx.endpoints, res, c.endpoints⟩])

/-- An entry of /dev/cxl: `chr` is whether it is a character device, unless
`stat` fails. -/
structure DirEntry where
  name : Bytes
  chr : Option Bool
  sys : DevSys

/- Entries with a leading dot are passed over. -/
def scanEntries : List DirEntry → Ctx → Option (Ctx × List OpenEvent)
  | [], ctx => some (ctx, [])
  | e :: es, ctx =>
      if byteAt e.name 0 = 0x2e ∨ e.chr ≠ some true then scanEntries es ctx
      else (logged (.mailbox (some e.name)) ctx (cxlmiOpen ctx e.name e.sys)).bind fun (c, ev) =>
        (scanEntries es c).map fun (c, evs) => (c, ev ++ evs)

inductive Dir where
  | missing
  | unreadable
  | entries (es : List DirEntry)

def cxlmiScan (ctx : Ctx) : Dir → Option (Ctx × ℤ × List OpenEvent)
  | .missing => some (ctx, 0, [])
  | .unreadable => some (ctx, -1, [])
  | .entries es => (scanEntries es ctx).map fun (c, evs) => (c, evs.countP (·.result = .opened), evs)

inductive CtxOp where
  | openDev (devname : Bytes) (sys : DevSys)
  | openMctp (netid : U 32) (eid : Byte) (sys : MctpSys)
  | openMock (sys : MockSys)
  | scan (dir : Dir)
  | close (i : ℕ)

def CtxOp.step (o : ByteOrder) (ctx : Ctx) : CtxOp → Option (Ctx × List OpenEvent)
  | .openDev devname sys => logged (.mailbox (some devname)) ctx (cxlmiOpen ctx devname sys)
  | .openMctp netid eid sys => logged (.mctp netid eid) ctx (cxlmiOpenMctp o ctx netid eid sys)
  | .openMock sys => logged .mock ctx (some (cxlmiOpenMock ctx sys))
  | .scan dir => (cxlmiScan ctx dir).map fun (c, _, evs) => (c, evs)
  | .close i => (cxlmiClose ctx i).map fun c => (c, [])

/-- The context after the calls `ops`, from a new one. -/
def registry (o : ByteOrder) (probeEnabled : Bool) (ops : List CtxOp) : Option Ctx :=
  ops.foldlM (fun ctx op => (op.step o ctx).map Prod.fst) ⟨probeEnabled, []⟩

/-! ### No two of one identity -/

/-- Two endpoints that are not mocks differ in their identity. -/
def Distinct (r s : Registered) : Prop := r.identity = s.identity → r.identity = .mock

def Ctx.Unique (ctx : Ctx) : Prop := ctx.endpoints.Pairwise Distinct

theorem identity_of_devname (r : Registered) (name : Bytes) :
    r.devname = some name ↔ r.identity = .mailbox (some name) := by
  constructor
  · intro h
    have hn := r.named (h ▸ Option.some_ne_none name)
    simp only [Registered.identity, hn, h]
  · intro h
    unfold Registered.identity at h
    split at h
    · exact Identity.mailbox.inj h
    · cases h
    · cases h

/-- The loop sees an MCTP endpoint as what it is, and a mock as the MCTP
endpoint of the magic number. -/
theorem scannedId_eq (r : Registered) (nid : U 32) (eid : Byte) :
    scannedId r.ep = some (nid, eid) ↔
      r.identity = .mctp nid eid ∨ (r.identity = .mock ∧ nid = mockMagic ∧ eid = 0) := by
  unfold scannedId Registered.identity
  split
  · simp only [reduceCtorEq, false_and, or_self]
  · simp only [Option.some.injEq, Prod.mk.injEq, Identity.mctp.injEq, reduceCtorEq, false_and, or_false]
  · simp only [Option.some.injEq, Prod.mk.injEq, reduceCtorEq, true_and, false_or]
    exact and_congr eq_comm eq_comm

/-! ### What each call does to the list -/

theorem close_init (ctx : Ctx) : cxlmiClose (initEndpoint ctx) 0 = some ctx := rfl

theorem cxlmiClose_cases (ctx : Ctx) (i : ℕ) :
    (cxlmiClose ctx i = none ∧ ∃ r, ctx.endpoints[i]? = some r ∧ ¬r.ep.Identified) ∨
      (cxlmiClose ctx i = some { ctx with endpoints := ctx.endpoints.eraseIdx i } ∧
        ∀ r, ctx.endpoints[i]? = some r → r.ep.Identified) := by
  unfold cxlmiClose
  cases hr : ctx.endpoints[i]? with
  | none =>
    refine Or.inr ⟨?_, fun r h => by cases h⟩
    rw [List.eraseIdx_of_length_le (List.getElem?_eq_none_iff.mp hr)]
  | some r =>
    have hkeep : ∀ s, some r = some s → r.ep.Identified → s.ep.Identified := fun s hs h => Option.some.inj hs ▸ h
    cases htd : r.ep.transportData with
    | none =>
      refine Or.inr ⟨by simp only [htd], fun s hs => hkeep s hs (identified_of_not_mctp r.ep fun m hm => ?_)⟩
      rw [htd] at hm
      cases hm
    | some td =>
      cases td with
      | mock k =>
        refine Or.inr ⟨by simp only [htd], fun s hs => hkeep s hs (identified_of_not_mctp r.ep fun m hm => ?_)⟩
        rw [htd] at hm
        cases hm
      | mctp m =>
        have hid := identified_mctp r.ep m htd
        have hmock := isMockEndpoint_mctp r.ep m htd
        by_cases hn : m.nid = mockMagic
        · refine Or.inl ⟨?_, r, rfl, fun h => hid.mp h hn⟩
          simp only [htd, hmock.mpr hn, if_true]
        · refine Or.inr ⟨?_, fun s hs => hkeep s hs (hid.mpr hn)⟩
          simp only [htd, if_neg (fun h => hn (hmock.mp h))]

theorem cxlmiOpen_cases (ctx : Ctx) (name : Bytes) (sys : DevSys) :
    (cxlmiOpen ctx name sys = some (ctx, .duplicate) ∧ ∃ r ∈ ctx.endpoints, r.identity = .mailbox (some name)) ∨
      cxlmiOpen ctx name sys = some (ctx, .failed) ∨
      ∃ r, cxlmiOpen ctx name sys = some (ctx.add r, .opened) ∧ r.identity = .mailbox (some name) ∧
        ∀ s ∈ ctx.endpoints, s.identity ≠ .mailbox (some name) := by
  unfold cxlmiOpen
  split_ifs with hdup hep hsys
  · obtain ⟨r, hr, heq⟩ := List.any_eq_true.mp hdup
    exact Or.inl ⟨rfl, r, hr, (identity_of_devname r name).mp (beq_iff_eq.mp heq)⟩
  · exact Or.inr (Or.inl rfl)
  · rw [close_init]
    exact Or.inr (Or.inl rfl)
  · refine Or.inr (Or.inr ⟨_, rfl, rfl, fun s hs hid => hdup ?_⟩)
    refine List.any_eq_true.mpr ⟨s, hs, ?_⟩
    rw [(identity_of_devname s name).mpr hid, beq_self_eq_true]

theorem cxlmiOpenMock_cases (ctx : Ctx) (sys : MockSys) :
    cxlmiOpenMock ctx sys = (ctx, .failed) ∨
      ∃ r, cxlmiOpenMock ctx sys = (ctx.add r, .opened) ∧ r.identity = .mock := by
  unfold cxlmiOpenMock
  split_ifs
  · exact Or.inl rfl
  · exact Or.inr ⟨_, rfl, rfl⟩

/- An endpoint keeps its network id and eid from the open on. -/
theorem opening_identity (o : ByteOrder) (nid : U 32) (eid : Byte) (sd : ℕ) (probeEnabled : Bool) (env : Env)
    (sock : ℤ) (l : Life) (h : (Opening.mctp nid eid sd probeEnabled env sock).run o = some l) :
    ∃ m, l.ep.transportData = some (.mctp m) ∧ m.nid = nid ∧ m.eid = eid := by
  rw [opening_mctp_eq] at h
  split_ifs at h
  · rw [← Option.some.inj h]
    exact ⟨_, rfl, rfl, rfl⟩
  · obtain ⟨ep, ⟨-, -, -, hlink⟩, rfl | ⟨m, hm, rfl⟩⟩ := probeMctp_cases o env _ l sock h
    · obtain ⟨n, hn⟩ := hlink _ rfl
      exact ⟨_, hn, rfl, rfl⟩
    · obtain ⟨n, hn⟩ := hlink _ rfl
      obtain rfl := TransportData.mctp.inj (Option.some.inj (hn.symm.trans hm))
      unfold Life.fmapiSocket
      split_ifs
      · exact ⟨_, rfl, rfl, rfl⟩
      · exact ⟨_, rfl, rfl, rfl⟩

theorem opening_none_iff (o : ByteOrder) (nid : U 32) (eid : Byte) (sd : ℕ) (probeEnabled : Bool) (env : Env)
    (sock : ℤ) :
    (Opening.mctp nid eid sd probeEnabled env sock).run o = none ↔
      nid = mockMagic ∧ probeEnabled = true ∧ env.alloc .response 30 = true := by
  rw [opening_mctp_eq]
  split_ifs with hp
  · simp only [hp, Bool.false_eq_true, false_and, and_false]
  · rw [Bool.not_eq_false] at hp
    rw [probeMctp_none_iff, not_identified_iff]
    simp only [mctpOpened, Option.some.injEq, TransportData.mctp.injEq, exists_eq_left', hp, true_and]
    exact and_comm

/-- The system calls of an open succeed up to the probe. -/
def MctpSys.Ready (sys : MctpSys) : Prop := sys.epAlloc = true ∧ sys.mctpAlloc = true ∧ 0 ≤ sys.sd

instance (sys : MctpSys) : Decidable sys.Ready := inferInstanceAs (Decidable (_ ∧ _ ∧ _))

/-- Opening meets an endpoint that it takes for the same, fails for want of
memory or a socket, is undefined in the probe, or adds the endpoint. -/
theorem cxlmiOpenMctp_cases (o : ByteOrder) (ctx : Ctx) (nid : U 32) (eid : Byte) (sys : MctpSys) :
    (cxlmiOpenMctp o ctx nid eid sys = some (ctx, .duplicate) ∧
        ∃ r ∈ ctx.endpoints, r.identity = .mctp nid eid ∨ (r.identity = .mock ∧ nid = mockMagic ∧ eid = 0)) ∨
      (¬∃ r ∈ ctx.endpoints, r.identity = .mctp nid eid ∨ (r.identity = .mock ∧ nid = mockMagic ∧ eid = 0)) ∧
        ((cxlmiOpenMctp o ctx nid eid sys = some (ctx, .failed) ∧ ¬sys.Ready) ∨
          (cxlmiOpenMctp o ctx nid eid sys = none ∧ sys.Ready ∧ nid = mockMagic ∧ ctx.probeEnabled = true ∧
            sys.probe.alloc .response 30 = true) ∨
          (∃ r, cxlmiOpenMctp o ctx nid eid sys = some (ctx.add r, .opened) ∧ sys.Ready ∧
            r.identity = .mctp nid eid ∧
            ¬(nid = mockMagic ∧ ctx.probeEnabled = true ∧ sys.probe.alloc .response 30 = true))) := by
  unfold cxlmiOpenMctp
  split_ifs with hdup hep hsys
  · obtain ⟨r, hr, heq⟩ := List.any_eq_true.mp hdup
    exact Or.inl ⟨rfl, r, hr, (scannedId_eq r nid eid).mp (beq_iff_eq.mp heq)⟩
  all_goals
    refine Or.inr ⟨?_, ?_⟩
    · rintro ⟨r, hr, hid⟩
      refine hdup (List.any_eq_true.mpr ⟨r, hr, ?_⟩)
      rw [(scannedId_eq r nid eid).mpr hid, beq_self_eq_true]
  · refine Or.inl ⟨rfl, fun h => ?_⟩
    rw [h.1] at hep
    cases hep
  · refine Or.inl ⟨by rw [close_init]; rfl, fun h => ?_⟩
    rcases hsys with hs | hs
    · rw [h.2.1] at hs
      cases hs
    · exact absurd h.2.2 (not_le.mpr hs)
  · have hready : sys.Ready :=
      ⟨Bool.not_eq_false _ ▸ hep, Bool.not_eq_false _ ▸ (not_or.mp hsys).1, not_lt.mp (not_or.mp hsys).2⟩
    have hnone := opening_none_iff o nid eid sys.sd.toNat ctx.probeEnabled sys.probe sys.fmapiSd
    cases hrun : (sys.opening nid eid ctx.probeEnabled).run o with
    | none =>
      obtain ⟨hn, hp, ha⟩ := hnone.mp hrun
      exact Or.inr (Or.inl ⟨rfl, hready, hn, hp, ha⟩)
    | some l =>
      obtain ⟨m, hm, rfl, rfl⟩ := opening_identity o nid eid sys.sd.toNat ctx.probeEnabled sys.probe sys.fmapiSd l hrun
      refine Or.inr (Or.inr ⟨_, rfl, hready, ?_, fun h => ?_⟩)
      · simp only [Registered.identity, hm]
      · have hn := hnone.mpr h
        unfold MctpSys.opening at hrun
        rw [hn] at hrun
        cases hrun

end LibCxlmi.Run
