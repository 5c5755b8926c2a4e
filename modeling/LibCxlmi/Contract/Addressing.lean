import LibCxlmi.Transport.Silent

/-!
# Targets of tunnelled commands

What a `cxlmi_tunnel_info` asks for (the four forms libcxlmi.h defines) against
what the tunnel headers of the message say. A header of type 0 names a port of
a switch or an LD of a device, whichever it is sent to, so headers are resolved
at the component that receives them. The library keeps the low byte of an id,
takes an id of -1 for the LD Pool on MCTP but not in the outermost header of a
mailbox command, and never looks at `mhd`.
-/

namespace LibCxlmi.Contract
open LibCxlmi.Word LibCxlmi.Cci LibCxlmi.Transport

inductive Target where
  | port (p : Byte)
  | ld (l : Byte)
  | ldBehindPort (p l : Byte)
  | ldPool
  deriving DecidableEq, Repr

/-- What receives the outermost header: a switch, or an MLD of one head or
more. -/
inductive Component where
  | switch
  | device
  deriving DecidableEq, Repr

def Target.component : Target → Component
  | .port _ => .switch
  | .ldBehindPort _ _ => .switch
  | .ld _ => .device
  | .ldPool => .device

def byteOf (i : ℤ) : Option Byte := if 0 ≤ i ∧ i < 256 then some (uint8 i) else none

/-- The target of CXLMI_TUNNEL_MLD, CXLMI_TUNNEL_SWITCH, CXLMI_TUNNEL_SWITCH_MLD
and CXLMI_TUNNEL_MHD with ids of one byte. No other tunnel info has one. -/
def requested (t : TunnelInfo) : Option Target :=
  if t.level = 1 then
    if t.mhd then if t.port = -1 ∧ t.ld = -1 then some .ldPool else none
    else if t.port = -1 then (byteOf t.ld).map .ld
    else if t.ld = -1 then (byteOf t.port).map .port
    else none
  else if t.level = 2 ∧ t.mhd = false then
    (byteOf t.port).bind fun p => (byteOf t.ld).map fun l => .ldBehindPort p l
  else none

/-- Target types and ids of the tunnel headers, outermost first. -/
abbrev Pairs := List (Byte × Byte)

/-- The target a component finds for the headers; the id of the LD Pool is
ignored. -/
def resolve : Component → Pairs → Option Target
  | .switch, [(0, p)] => some (.port p)
  | .switch, [(0, p), (0, l)] => some (.ldBehindPort p l)
  | .device, [(0, l)] => some (.ld l)
  | .device, [(1, _)] => some .ldPool
  | _, _ => none

def headers : ℕ → Bytes → Pairs
  | 0, _ => []
  | k + 1, m => (byteAt m 13, byteAt m 12) :: headers k (m.drop 16)

def mailboxHeaders : ℕ → Bytes → Pairs
  | 0, _ => []
  | k + 1, b => (byteAt b 1, byteAt b 0) :: headers k (b.drop 4)

/-- The headers the library writes around a request; a mock gets none. -/
def written (o : ByteOrder) (ep : Endpoint) (t : TunnelInfo) (req : Bytes) : Pairs :=
  match ep.transportData with
  | some (.mctp m) => headers (tunnelDepth (some t)) (mctpMsg o m (some t) req)
  | some (.mock _) => []
  | none => mailboxHeaders (tunnelDepth (some t)) (mailboxMsg o (some t) req).2

/-! ### The headers in terms of the ids -/

def mctpPair (id : ℤ) : Byte × Byte :=
  (if id = -1 then targetTypeLdPoolCci else targetTypePortOrLd, uint8 id)

def mailboxPair (id : ℤ) : Byte × Byte := (targetTypePortOrLd, uint8 id)

theorem headers_buildTunnelReq (o : ByteOrder) (k : ℕ) (c : Option ℕ) (id : ℤ) (m : Bytes) :
    headers (k + 1) (buildTunnelReq o c id m) = mctpPair id :: headers k m := by
  rw [headers, buildTunnelReq_drop, buildTunnelReq, byteAt_append_right _ _ 13 (by simp),
    byteAt_append_right _ _ 12 (by simp), cciHeader_length]
  rfl

theorem mailboxHeaders_ioctlTunnelReq (o : ByteOrder) (k : ℕ) (id : ℤ) (m : Bytes) :
    mailboxHeaders (k + 1) (ioctlTunnelReq o id m) = mailboxPair id :: headers k m := by
  rw [mailboxHeaders, ioctlTunnelReq_drop]
  rfl

theorem written_mctp (o : ByteOrder) (ep : Endpoint) (m : MctpTransport) (t : TunnelInfo) (req : Bytes)
    (ht : t.level = 1 ∨ t.level = 2) (hm : ep.transportData = some (.mctp m)) :
    written o ep t req = mctpPair (outerId t) :: if t.level = 1 then [] else [mctpPair t.ld] := by
  rcases ht with h1 | h2
  · simp only [written, hm, tunnelDepth, mctpMsg, mctpTunnelReq, outerId, h1, one_ne_zero, if_false, if_true]
    exact headers_buildTunnelReq o 0 _ _ req
  · simp only [written, hm, tunnelDepth, mctpMsg, mctpTunnelReq, mctpTunnel2Req, outerId, h2,
      OfNat.ofNat_ne_zero, OfNat.ofNat_ne_one, if_false]
    show headers 2 _ = _
    rw [headers_buildTunnelReq, headers_buildTunnelReq]
    rfl

theorem written_mailbox (o : ByteOrder) (ep : Endpoint) (t : TunnelInfo) (req : Bytes)
    (ht : t.level = 1 ∨ t.level = 2) (hm : ep.transportData = none) :
    written o ep t req = mailboxPair (outerId t) :: if t.level = 1 then [] else [mctpPair t.ld] := by
  rcases ht with h1 | h2
  · simp only [written, hm, tunnelDepth, mailboxMsg, mailboxTunnelReq, outerId, h1, one_ne_zero, if_false,
      if_true]
    exact mailboxHeaders_ioctlTunnelReq o 0 _ req
  · simp only [written, hm, tunnelDepth, mailboxMsg, mailboxTunnelReq, ioctlTunnel2Req, outerId, h2,
      OfNat.ofNat_ne_zero, OfNat.ofNat_ne_one, if_false]
    show mailboxHeaders 2 _ = _
    rw [mailboxHeaders_ioctlTunnelReq, headers_buildTunnelReq]
    rfl

theorem mctpPair_of_ne (id : ℤ) (h : id ≠ -1) : mctpPair id = mailboxPair id := by
  rw [mctpPair, if_neg h, mailboxPair]

theorem mctpPair_eq_mailboxPair_iff (id : ℤ) : mctpPair id = mailboxPair id ↔ id ≠ -1 := by
  refine ⟨fun h hid => ?_, mctpPair_of_ne id⟩
  subst hid
  exact absurd h (by decide)

theorem byteOf_eq_some (i : ℤ) (b : Byte) (h : byteOf i = some b) : uint8 i = b ∧ i ≠ -1 := by
  unfold byteOf at h
  split_ifs at h with hr
  exact ⟨Option.some.inj h, by omega⟩

theorem requested_cases (t : TunnelInfo) (a : Target) (h : requested t = some a) :
    (t.level = 1 ∧ a = .ldPool ∧ outerId t = -1) ∨
      (t.level = 1 ∧ outerId t ≠ -1 ∧ (a = .ld (uint8 (outerId t)) ∨ a = .port (uint8 (outerId t)))) ∨
      (t.level = 2 ∧ outerId t ≠ -1 ∧ t.ld ≠ -1 ∧ a = .ldBehindPort (uint8 (outerId t)) (uint8 t.ld)) := by
  unfold requested at h
  by_cases h1 : t.level = 1
  · simp only [h1, if_true, outerId, TunnelInfo.target1] at h ⊢
    split_ifs at h with hm hpool hport hld
    · exact Or.inl ⟨trivial, (Option.some.inj h).symm, by rw [if_pos hpool.2]; exact hpool.1⟩
    · obtain ⟨l, hl, rfl⟩ := Option.map_eq_some_iff.mp h
      obtain ⟨rfl, hne⟩ := byteOf_eq_some _ _ hl
      rw [if_neg hne]
      exact Or.inr (Or.inl ⟨trivial, hne, Or.inl rfl⟩)
    · obtain ⟨p, hp, rfl⟩ := Option.map_eq_some_iff.mp h
      obtain ⟨rfl, hne⟩ := byteOf_eq_some _ _ hp
      rw [if_pos hld]
      exact Or.inr (Or.inl ⟨trivial, hne, Or.inr rfl⟩)
  · simp only [h1, if_false, outerId] at h ⊢
    split_ifs at h with h2
    obtain ⟨p, hp, h⟩ := Option.bind_eq_some_iff.mp h
    obtain ⟨l, hl, rfl⟩ := Option.map_eq_some_iff.mp h
    obtain ⟨rfl, hpne⟩ := byteOf_eq_some _ _ hp
    obtain ⟨rfl, hlne⟩ := byteOf_eq_some _ _ hl
    exact Or.inr (Or.inr ⟨h2.1, hpne, hlne, rfl⟩)

theorem resolve_mctp (o : ByteOrder) (ep : Endpoint) (m : MctpTransport) (t : TunnelInfo) (req : Bytes)
    (a : Target) (ht : t.level = 1 ∨ t.level = 2) (hm : ep.transportData = some (.mctp m))
    (ha : requested t = some a) : resolve a.component (written o ep t req) = some a := by
  rw [written_mctp o ep m t req ht hm]
  rcases requested_cases t a ha with ⟨h1, rfl, hid⟩ | ⟨h1, hid, rfl | rfl⟩ | ⟨h2, hid, hld, rfl⟩
  · rw [if_pos h1, hid]
    rfl
  · rw [if_pos h1, mctpPair_of_ne _ hid]
    rfl
  · rw [if_pos h1, mctpPair_of_ne _ hid]
    rfl
  · rw [if_neg (by omega), mctpPair_of_ne _ hid, mctpPair_of_ne _ hld]
    rfl

theorem resolve_mailbox_iff (o : ByteOrder) (ep : Endpoint) (t : TunnelInfo) (req : Bytes) (a : Target)
    (ht : t.level = 1 ∨ t.level = 2) (hm : ep.transportData = none) (ha : requested t = some a) :
    resolve a.component (written o ep t req) = some a ↔ a ≠ .ldPool := by
  rw [written_mailbox o ep t req ht hm]
  rcases requested_cases t a ha with ⟨h1, rfl, hid⟩ | ⟨h1, hid, rfl | rfl⟩ | ⟨h2, hid, hld, rfl⟩
  · rw [if_pos h1, hid]
    decide
  · rw [if_pos h1]
    exact iff_of_true rfl (by simp only [ne_eq, reduceCtorEq, not_false_eq_true])
  · rw [if_pos h1]
    exact iff_of_true rfl (by simp only [ne_eq, reduceCtorEq, not_false_eq_true])
  · rw [if_neg (by omega), mctpPair_of_ne _ hld]
    exact iff_of_true rfl (by simp only [ne_eq, reduceCtorEq, not_false_eq_true])

/-! ### Addressing -/

/-- The command is never transmitted, or its headers lead to the target that
was asked for. -/
def Addressed (o : ByteOrder) (ep : Endpoint) (t : TunnelInfo) (req : Bytes) : Prop :=
  (∀ env rspSz rspMin r, sendCmdCci o env ep (some t) req rspSz rspMin = some r → r.sent = []) ∨
    ∃ a, requested t = some a ∧ resolve a.component (written o ep t req) = some a

/-- The tunnel info has a target, which is not the LD Pool on a mailbox. -/
def Addressable (ep : Endpoint) (t : TunnelInfo) : Prop :=
  ∃ a, requested t = some a ∧ (ep.transportData = none → a ≠ .ldPool)

theorem unsent_iff (o : ByteOrder) (ep : Endpoint) (ti : Option TunnelInfo) (req : Bytes) :
    (∀ env rspSz rspMin r, sendCmdCci o env ep ti req rspSz rspMin = some r → r.sent = []) ↔
      Silent ep ti (commandSet req) ∨ ∃ k, ep.transportData = some (.mock k) := by
  constructor
  · intro h
    by_contra hn
    obtain ⟨hsil, hmock⟩ := not_or.mp hn
    obtain ⟨tx, htx⟩ := outbound_of_not_silent o ep ti req hsil fun k hk => hmock ⟨k, hk⟩
    obtain ⟨r, hr, hsent, -⟩ := sendCmdCci_takesAll o ep ti req 12 12 tx htx
    rw [h _ _ _ r hr] at hsent
    cases hsent
  · intro h env rspSz rspMin r hr
    have hnone : outbound o ep ti req = none := by
      rcases h with hsil | ⟨k, hk⟩
      · exact silent_outbound o ep ti req hsil
      · simp only [outbound, hk, ite_self]
    apply List.eq_nil_iff_forall_not_mem.mpr
    intro tx htx
    rw [sendCmdCci_sent o env ep ti req rspSz rspMin r hr tx htx] at hnone
    cases hnone

theorem resolve_written_iff (o : ByteOrder) (ep : Endpoint) (t : TunnelInfo) (req : Bytes) (a : Target)
    (ht : t.level = 1 ∨ t.level = 2) (hmock : ¬∃ k, ep.transportData = some (.mock k))
    (ha : requested t = some a) :
    resolve a.component (written o ep t req) = some a ↔ (ep.transportData = none → a ≠ .ldPool) := by
  cases htd : ep.transportData with
  | none =>
    rw [resolve_mailbox_iff o ep t req a ht htd ha]
    exact ⟨fun h _ => h, fun h => h rfl⟩
  | some td =>
    cases td with
    | mock k => exact absurd ⟨k, htd⟩ hmock
    | mctp m =>
      refine iff_of_true (resolve_mctp o ep m t req a ht htd ha) (fun h => ?_)
      cases h

/-- A tunnelled command reaches the target its tunnel info asks for exactly
when it asks for one that the endpoint can address. The two transports write
the same headers exactly when the first id is not -1, and addressable targets
of one component never share theirs. -/
theorem addressed_iff (o : ByteOrder) (t : TunnelInfo) (req : Bytes) (ht : t.level = 1 ∨ t.level = 2) :
    (∀ ep, Addressed o ep t req ↔
      Silent ep (some t) (commandSet req) ∨ (∃ k, ep.transportData = some (.mock k)) ∨ Addressable ep t) ∧
    (∀ ep ep' m, ep.transportData = some (.mctp m) → ep'.transportData = none →
      (written o ep t req = written o ep' t req ↔ outerId t ≠ -1)) ∧
    ∀ ep t' a b, Addressable ep t → Addressable ep t' → (t'.level = 1 ∨ t'.level = 2) →
      (¬∃ k, ep.transportData = some (.mock k)) → requested t = some a → requested t' = some b →
      a.component = b.component → written o ep t req = written o ep t' req → a = b := by
  refine ⟨fun ep => ?_, fun ep ep' m hm hb => ?_, ?_⟩
  · rw [Addressed, unsent_iff, or_assoc]
    refine or_congr_right ?_
    by_cases hmock : ∃ k, ep.transportData = some (.mock k)
    · exact iff_of_true (Or.inl hmock) (Or.inl hmock)
    · refine or_congr_right (exists_congr fun a => and_congr_right fun ha => ?_)
      exact resolve_written_iff o ep t req a ht hmock ha
  · rw [written_mctp o ep m t req ht hm, written_mailbox o ep' t req ht hb, ← mctpPair_eq_mailboxPair_iff,
      List.cons.injEq]
    exact ⟨fun h => h.1, fun h => ⟨h, rfl⟩⟩
  · rintro ep t' a b ⟨a', ha', hpa⟩ ⟨b', hb', hpb⟩ ht' hmock ha hb hcomp hw
    obtain rfl := Option.some.inj (ha'.symm.trans ha)
    obtain rfl := Option.some.inj (hb'.symm.trans hb)
    -- both targets are what the component resolves the same headers to
    have hra := (resolve_written_iff o ep t req a' ht hmock ha).mpr hpa
    have hrb := (resolve_written_iff o ep t' req b' ht' hmock hb).mpr hpb
    rw [hcomp, hw, hrb] at hra
    exact (Option.some.inj hra).symm

theorem port7_addressed :
    (behindPort 7).level = 1 ∧ Addressed .little mctpEndpoint (behindPort 7) (identifyReq 0) ∧
      Addressed .little switchMailbox (behindPort 7) (identifyReq 0) := by
  have h := addressed_iff .little (behindPort 7) (identifyReq 0) (Or.inl rfl)
  have haddr : ∀ ep, Addressable ep (behindPort 7) := by
    intro ep
    refine ⟨.port 7, by decide, fun _ => by decide⟩
  exact ⟨rfl, (h.1 _).mpr (Or.inr (Or.inr (haddr _))), (h.1 _).mpr (Or.inr (Or.inr (haddr _)))⟩

/-- The LD Pool of a multi-headed device over the mailbox is addressed as LD
255, and port 256 as port 0. -/
theorem ldPool_lost_on_mailbox :
    requested ⟨-1, -1, 1, true⟩ = some .ldPool ∧
      written .little switchMailbox ⟨-1, -1, 1, true⟩ (identifyReq 0) = [(0, 0xff)] ∧
      resolve .device [(0, 0xff)] = some (.ld 0xff) ∧
      written .little mctpEndpoint ⟨-1, -1, 1, true⟩ (identifyReq 0) = [(1, 0xff)] ∧
      written .little mctpEndpoint (behindPort 256) (identifyReq 0) =
        written .little mctpEndpoint (behindPort 0) (identifyReq 0) ∧
      ((sendCmdCci .little takesAll switchMailbox (some ⟨-1, -1, 1, true⟩) (identifyReq 0) 30 30).map
        Outcome.sent) = some [.mailbox 3 0x5300 ([0xff, 0, 12, 0] ++ identifyReq 0)] := by
  decide +kernel

end LibCxlmi.Contract
