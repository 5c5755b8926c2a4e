import LibCxlmi.Transport.Send

/-!
# The return-code contract (README.md:243-247)

A command returns 0 on success, -1 when it could not be sent or its reply
cannot be used, and otherwise the CXL return code of the first layer, outermost
first, that reports one. `heard` says what came back on each path, as reports
of layers and without the code's own sign and length handling; `contractRc` is
the value the contract asks for. The two mailbox tunnels do not keep it: they
negate the code of the outermost layer, and they answer -1 to a reply shorter
than the successful one before they look for a code in it.
-/

namespace LibCxlmi.Contract
open LibCxlmi.Word LibCxlmi.Cci LibCxlmi.Transport

/- A code the transport itself delivers: the mailbox return value, or the code
of a configured mock response. -/
def codeReport (c : ℕ) : Report := if c = 0 then .ok else .code c

def contractRc : Option (List Report) → ℤ
  | none => -1
  | some rs => judge rs

def mctpHeard (o : ByteOrder) (env : Env) (m : MctpTransport) (fmapi : Bool) (ti : Option TunnelInfo)
    (req : Bytes) (rspSz rspMin : ℕ) : Option (List Report) :=
  match mctpBuild o env m ti req with
  | none => none
  | some (0, tReq) => (arrived env (if fmapi then m.fmapiSd else m.sd) tReq rspSz false).map
      (nestReports o (mctpRule rspSz rspMin) 0 tReq)
  | some (k + 1, tReq) => (arrivedTunnelled env m (k + 1) tReq rspSz).map
      (nestReports o (mctpRule rspSz rspMin) (k + 1) tReq)

def ioctlReports : IoctlResult → (Bytes → List Report) → Option (List Report)
  | .error, _ => none
  | .done retval out, inner => some (codeReport retval.val :: inner out)

def ioctlHeard (o : ByteOrder) (env : Env) (fd : ℤ) (ti : Option TunnelInfo) (req : Bytes)
    (rspSz rspMin : ℕ) : Option (List Report) :=
  let direct := ioctlReports (mailboxIoctl env fd (rspSz - 12)) fun _ => []
  match ti with
  | none => direct
  | some t =>
      if t.level = 0 then direct
      else
        match mailboxBuild o env t req with
        | none => none
        | some (k, tReq) => ioctlReports (tunnelledIoctl env fd k rspSz) fun out =>
            tunnelledReports o k (tReq.drop 4) out rspSz rspMin

def heard (o : ByteOrder) (env : Env) (ep : Endpoint) (ti : Option TunnelInfo) (req : Bytes)
    (rspSz rspMin : ℕ) : Option (List Report) :=
  if refused ep ti req then none
  else
    match ep.transportData with
    | some (.mock k) => some [codeReport (mockCode k (commandSet req) (command req))]
    | some (.mctp m) => mctpHeard o env m (cmdIsFmapi (commandSet req)) ti req rspSz rspMin
    | none => ioctlHeard o env ep.fd ti req rspSz rspMin

/-- The contract never asks for a negative value other than -1. -/
theorem contractRc_range (h : Option (List Report)) : contractRc h = -1 ∨ 0 ≤ contractRc h := by
  cases h with
  | none => exact Or.inl rfl
  | some rs => exact judge_range rs

theorem judge_codeReport_cons (c : ℕ) (rs : List Report) :
    judge (codeReport c :: rs) = if c = 0 then judge rs else c := by
  unfold codeReport
  split_ifs with h
  · rfl
  · rfl

theorem judgeArrived_eq (o : ByteOrder) (rule : LengthRule) (k : ℕ) (req : Bytes) (a : Option Bytes) :
    judgeArrived o rule k req a = contractRc (a.map (nestReports o rule k req)) := by
  cases a with
  | none => rfl
  | some d => rfl

/-! ### MCTP and mock keep the contract -/

theorem sendMctp_contract (o : ByteOrder) (env : Env) (m : MctpTransport) (fmapi : Bool)
    (ti : Option TunnelInfo) (req : Bytes) (rspSz rspMin : ℕ) :
    (sendMctp o env m fmapi ti req rspSz rspMin).rc =
      contractRc (mctpHeard o env m fmapi ti req rspSz rspMin) := by
  unfold mctpHeard
  rcases sendMctp_cases o env m fmapi ti req rspSz rspMin with
    ⟨hb, n, -, hs⟩ | ⟨hb, hs⟩ | ⟨k, tReq, hb, hs⟩
  · rw [hb, hs]
    rfl
  · rw [hb, hs, sendMctpDirect_rc, judgeArrived_eq]
  · rw [hb, hs, sendMctpTunnelled_rc, judgeArrived_eq]
    rfl

theorem sendMockCmd_contract (o : ByteOrder) (env : Env) (k : MockTransport) (req : Bytes) (rspSz : ℕ) :
    (sendMockCmd o env k req rspSz).rc =
      contractRc (some [codeReport (mockCode k (commandSet req) (command req))]) := by
  rw [sendMockCmd_rc, contractRc, judge_codeReport_cons]
  split_ifs with h
  · rw [h]
    rfl
  · rfl

/-! ### The mailbox -/

theorem sendIoctlDirect_contract (env : Env) (fd : ℤ) (req : Bytes) (rspSz : ℕ) :
    (sendIoctlDirect env fd req rspSz).rc =
      contractRc (ioctlReports (mailboxIoctl env fd (rspSz - 12)) fun _ => []) := by
  unfold sendIoctlDirect
  cases mailboxIoctl env fd (rspSz - 12) with
  | error => rfl
  | done retval out =>
    simp only [ioctlReports, contractRc, judge_codeReport_cons]
    by_cases hr : retval = 0
    · rw [if_neg (not_not.mpr hr), if_pos (by rw [hr]; rfl)]
      rfl
    · rw [if_pos hr, if_neg fun hv => hr (Fin.val_eq_zero_iff.mp hv)]

/- The code is lost: it comes from the mailbox itself, or it stands in a reply
that is shorter than a successful one. -/
def CodeLost (o : ByteOrder) (k : ℕ) (tReq : Bytes) (rspSz rspMin : ℕ) : IoctlResult → Prop
  | .error => False
  | .done retval out => retval ≠ 0 ∨
      (out.length < 4 + 16 * k + rspMin ∧
        0 < judge (tunnelledReports o k (tReq.drop 4) out rspSz rspMin))

def MailboxCodeLost (o : ByteOrder) (env : Env) (fd : ℤ) (ti : Option TunnelInfo) (req : Bytes)
    (rspSz rspMin : ℕ) : Prop :=
  ∃ t k tReq, ti = some t ∧ mailboxBuild o env t req = some (k, tReq) ∧
    CodeLost o k tReq rspSz rspMin (tunnelledIoctl env fd k rspSz)

theorem tunnelledReports_short (o : ByteOrder) (k : ℕ) (req out : Bytes) (rspSz rspMin : ℕ)
    (h : out.length < 4 + 16 * k + rspMin) : judge (tunnelledReports o k req out rspSz rspMin) ≠ 0 := by
  intro h0
  have hn := (judge_mctpRule_eq_zero o rspSz rspMin k req (out.drop 4)).mp
    ((judge_tunnelReport_cons out _).mp h0).2
  have hl := nest_length o k req (out.drop 4) hn.1
  have hle := hn.2.le
  rw [List.length_drop] at hl hle
  omega

/- One tunnelled mailbox command keeps the contract exactly when its code is
not lost: a short reply is then one that carries no code, and for those -1 is
right. -/
theorem sendIoctlTunnelled_contract (o : ByteOrder) (env : Env) (fd : ℤ) (k : ℕ) (tReq : Bytes)
    (rspSz rspMin : ℕ) :
    (sendIoctlTunnelled o env fd k tReq rspSz rspMin).rc =
        contractRc (ioctlReports (tunnelledIoctl env fd k rspSz) fun out =>
          tunnelledReports o k (tReq.drop 4) out rspSz rspMin) ↔
      ¬CodeLost o k tReq rspSz rspMin (tunnelledIoctl env fd k rspSz) := by
  cases h : tunnelledIoctl env fd k rspSz with
  | error =>
    rw [sendIoctlTunnelled_error o env fd k tReq rspSz rspMin h]
    exact ⟨fun _ hl => hl, fun _ => rfl⟩
  | done retval out =>
    rw [sendIoctlTunnelled_done o env fd k tReq rspSz rspMin retval out h]
    simp only [ioctlReports, contractRc, judge_codeReport_cons, CodeLost]
    by_cases hr : retval = 0
    · rw [if_neg (not_not.mpr hr), if_pos (Fin.val_eq_zero_iff.mpr hr)]
      by_cases hs : out.length < 4 + 16 * k + rspMin
      · have hne := tunnelledReports_short o k (tReq.drop 4) out rspSz rspMin hs
        rw [if_pos hs]
        rcases judge_range (tunnelledReports o k (tReq.drop 4) out rspSz rspMin) with hj | hj
        · rw [hj]
          exact ⟨fun _ hl => hl.elim (fun h => h hr) fun h => absurd h.2 (by decide), fun _ => rfl⟩
        · constructor
          · intro he
            omega
          · intro hl
            exact absurd (Or.inr ⟨hs, by omega⟩) hl
      · rw [if_neg hs]
        exact ⟨fun _ hl => hl.elim (fun h => h hr) fun h => hs h.1, fun _ => rfl⟩
    · have hv : retval.val ≠ 0 := fun hv => hr (Fin.val_eq_zero_iff.mp hv)
      rw [if_pos hr, if_neg hv]
      constructor
      · intro he
        omega
      · intro hl
        exact absurd (Or.inl hr) hl

theorem sendIoctl_contract (o : ByteOrder) (env : Env) (fd : ℤ) (ti : Option TunnelInfo)
    (req : Bytes) (rspSz rspMin : ℕ) :
    (sendIoctl o env fd ti req rspSz rspMin).rc = contractRc (ioctlHeard o env fd ti req rspSz rspMin) ↔
      ¬MailboxCodeLost o env fd ti req rspSz rspMin := by
  have hdirect := sendIoctlDirect_contract env fd req rspSz
  cases ti with
  | none =>
    refine ⟨fun _ hl => ?_, fun _ => hdirect⟩
    obtain ⟨t, k, tReq, ht, -⟩ := hl
    cases ht
  | some t =>
    by_cases h0 : t.level = 0
    · have hh : ioctlHeard o env fd (some t) req rspSz rspMin =
          ioctlReports (mailboxIoctl env fd (rspSz - 12)) fun _ => [] := if_pos h0
      rw [sendIoctl_direct o env fd t req rspSz rspMin h0, hh]
      refine ⟨fun _ ⟨t', k, tReq, ht, hm, _⟩ => ?_, fun _ => hdirect⟩
      obtain rfl := Option.some.inj ht
      exact mailboxBuild_level o env t req _ hm h0
    · have hh : ioctlHeard o env fd (some t) req rspSz rspMin =
          match mailboxBuild o env t req with
          | none => none
          | some (k, tReq) => ioctlReports (tunnelledIoctl env fd k rspSz) fun out =>
              tunnelledReports o k (tReq.drop 4) out rspSz rspMin := if_neg h0
      rw [sendIoctl_tunnel o env fd t req rspSz rspMin h0, hh]
      cases hm : mailboxBuild o env t req with
      | none =>
        refine ⟨fun _ ⟨t', k, tReq, ht, hm', _⟩ => ?_, fun _ => rfl⟩
        obtain rfl := Option.some.inj ht
        rw [hm] at hm'
        cases hm'
      | some p =>
        obtain ⟨k, tReq⟩ := p
        have hc := sendIoctlTunnelled_contract o env fd k tReq rspSz rspMin
        refine hc.trans (not_congr ⟨fun hl => ⟨t, k, tReq, rfl, hm, hl⟩, ?_⟩)
        rintro ⟨t', k', tReq', ht, hm', hl⟩
        obtain rfl := Option.some.inj ht
        obtain ⟨rfl, rfl⟩ := Prod.mk.inj (Option.some.inj (hm.symm.trans hm'))
        exact hl

/-- On a little-endian host the value returned is the one the contract asks
for, except by a mailbox tunnel that loses a code, and on an endpoint that is
taken for a mock one. -/
theorem sendCmdCci_returnCode (env : Env) (ep : Endpoint) (ti : Option TunnelInfo) (req : Bytes)
    (rspSz rspMin : ℕ) :
    (∃ r, sendCmdCci .little env ep ti req rspSz rspMin = some r ∧
        r.rc = contractRc (heard .little env ep ti req rspSz rspMin)) ↔
      refused ep ti req = true ∨ (ep.Identified ∧
        ¬(ep.transportData = none ∧ MailboxCodeLost .little env ep.fd ti req rspSz rspMin)) := by
  cases hr : refused ep ti req with
  | true =>
    refine ⟨fun _ => Or.inl rfl, fun _ => ⟨_, sendCmdCci_refused .little env ep ti req rspSz rspMin hr, ?_⟩⟩
    simp only [heard, hr, if_true]
    rfl
  | false =>
    cases ht : ep.transportData with
    | none =>
      have hid := identified_of_not_mctp ep (by simp [ht])
      have hh : heard .little env ep ti req rspSz rspMin =
          ioctlHeard .little env ep.fd ti req rspSz rspMin := by
        simp only [heard, hr, ht, Bool.false_eq_true, if_false]
      rw [hh, sendCmdCci_ioctl .little env ep ti req rspSz rspMin hr ht]
      have hc := sendIoctl_contract .little env ep.fd ti req rspSz rspMin
      constructor
      · rintro ⟨r, hs, hrc⟩
        obtain rfl := Option.some.inj hs
        exact Or.inr ⟨hid, fun hl => hc.mp hrc hl.2⟩
      · intro hl
        refine ⟨_, rfl, hc.mpr fun hlost => ?_⟩
        rcases hl with hl | ⟨-, hl⟩
        · cases hl
        · exact hl ⟨rfl, hlost⟩
    | some td =>
      cases td with
      | mock k =>
        have hid := identified_of_not_mctp ep (by simp [ht])
        have hh : heard .little env ep ti req rspSz rspMin =
            some [codeReport (mockCode k (commandSet req) (command req))] := by
          simp only [heard, hr, ht, Bool.false_eq_true, if_false]
        rw [hh, sendCmdCci_mock .little env ep k ti req rspSz rspMin hr ht]
        exact ⟨fun _ => Or.inr ⟨hid, fun hl => by cases hl.1⟩,
          fun _ => ⟨_, rfl, sendMockCmd_contract .little env k req rspSz⟩⟩
      | mctp m =>
        have hh : heard .little env ep ti req rspSz rspMin =
            mctpHeard .little env m (cmdIsFmapi (commandSet req)) ti req rspSz rspMin := by
          simp only [heard, hr, ht, Bool.false_eq_true, if_false]
        rw [hh]
        by_cases hn : m.nid = mockMagic
        · rw [sendCmdCci_confused .little env ep m ti req rspSz rspMin hr ht hn]
          constructor
          · rintro ⟨r, hs, -⟩
            cases hs
          · rintro (hl | ⟨hid, -⟩)
            · cases hl
            · exact absurd hn ((identified_mctp ep m ht).mp hid)
        · have hid := (identified_mctp ep m ht).mpr hn
          rw [sendCmdCci_mctp .little env ep m ti req rspSz rspMin hr ht hn]
          exact ⟨fun _ => Or.inr ⟨hid, fun hl => by cases hl.1⟩,
            fun _ => ⟨_, rfl, sendMctp_contract .little env m _ ti req rspSz rspMin⟩⟩

/-! ### The two ways to lose a code -/

/- Identify (0001h) through port 0. First the switch rejects the tunnel command
with code 2 and the library returns -2; then the device behind the port reports
code 6 in a reply without payload and the library returns -1. -/
theorem ioctlTunnel_loses_codes :
    let req := identifyReq 0
    let rejected := mailboxAnswers 2 []
    let busy := mailboxAnswers 0 [12, 0, 0, 0, 1, 0, 0, 0x01, 0x00, 0, 0, 0, 6, 0, 0, 0]
    let ti := some (behindPort 0)
    (sendCmdCci .little rejected switchMailbox ti req 30 30).map Outcome.rc = some (-2) ∧
      contractRc (heard .little rejected switchMailbox ti req 30 30) = 2 ∧
      (sendCmdCci .little busy switchMailbox ti req 30 30).map Outcome.rc = some (-1) ∧
      contractRc (heard .little busy switchMailbox ti req 30 30) = 6 := by
  decide +kernel

end LibCxlmi.Contract
