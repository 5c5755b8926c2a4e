import LibCxlmi.Dialogue.Handler
import LibCxlmi.Tools.System

/-!
# Vendor commands over the mailbox ioctl

The tools run on a mailbox endpoint. `libraryReply` is what
`cxlmi_cmd_vendor_specific` leaves them with for an ioctl that ended in a given
way: the library is run, with its allocations succeeding. A reply shorter than
the caller's buffer is padded with the zeros of the library's own buffer.
-/

namespace LibCxlmi.Tools
open LibCxlmi.Word LibCxlmi.Cci LibCxlmi.Transport LibCxlmi.Commands LibCxlmi.Dialogue

/-! ### Through the library -/

def mailboxEnv (x : IoctlResult) : Env := { takesAll with ioctl := x }

def libraryReply (o : ByteOrder) (ep : Endpoint) (m : Message) (n : ℕ) (x : IoctlResult) : VendorReply :=
  match (Commands.vendorSpecific (m.req o n)).run o (mailboxEnv x) ep none with
  | none => ⟨-1, []⟩
  | some r => ⟨r.rc, r.value.join.getD []⟩

/-- An endpoint of an opened memory device. -/
structure IsMailbox (ep : Endpoint) : Prop where
  transport : ep.transportData = none
  opened : 0 ≤ ep.fd

theorem Message.encode_ne_nil (o : ByteOrder) (m : Message) : m.encode o ≠ [] := by
  cases m with
  | vu r =>
    intro h
    have hlen := congrArg List.length (List.append_eq_nil_iff.mp h).1
    simp only [VuRequest.words, List.flatMap_cons, List.length_append, storeWord_length, List.length_nil] at hlen
    exact absurd hlen (by omega)
  | sdbVu port r => exact List.cons_ne_nil _ _
  | sdb port cmd set lenBytes payload => exact List.cons_ne_nil _ _

theorem Message.opcode_set (m : Message) : m.opcode.val / 256 = 0xCC := by
  have hvu : opcodeVu.val / 256 = 0xCC := by decide
  have hsdb : sdbTunnelOpcode.val / 256 = 0xCC := by decide
  cases m with
  | vu r => exact hvu
  | sdbVu port r => exact hsdb
  | sdb port cmd set lenBytes payload => exact hsdb

/-- Nothing keeps the command from going out over the mailbox. -/
structure GoesOut {α : Type} (c : CciCommand α) (o : ByteOrder) (pl : Bytes) : Prop where
  admitted : c.admitted = true
  payload : c.payload o = some pl
  supported : c.supported = true
  plain : cmdIsFmapi c.set = false

section Library
variable (o : ByteOrder) (ep : Endpoint) (hep : IsMailbox ep) (m : Message) (n : ℕ) (x : IoctlResult)

include hep in
theorem goesOut_sends {α : Type} (c : CciCommand α) (pl : Bytes) (hc : GoesOut c o pl) :
    c.Sends o (mailboxEnv x) ep none pl ((sendIoctlDirect (mailboxEnv x) ep.fd (armCciRequest o ep c.set c.cmd pl).1
      (c.rspSz o)).map fun _ => ep) := by
  have harmed : (armCciRequest o ep c.set c.cmd pl).2 = ep := by rw [armCciRequest, hep.transport]
  refine ⟨hc.admitted, fun h => Bool.noConfusion h.2, hc.payload, ?_, ?_⟩
  · rintro (h | ⟨-, h⟩)
    · exact Bool.noConfusion (hc.supported.symm.trans h)
    · cases h
  · rw [harmed, sendCmdCci, refused, commandSet_armed, hc.plain, hep.transport]
    rfl

include hep in
/-- A reply is cut to the room there is for it, and decoded. -/
theorem goesOut_run {α : Type} (c : CciCommand α) (pl out : Bytes) (hc : GoesOut c o pl) (sz : ℕ)
    (hsz : c.rspSz o = 12 + sz) (hlt : sz < 2 ^ 32) : ∃ s : Outcome Endpoint, Leaves s.rsp (out.take sz) (12 + sz) ∧
      c.run o (mailboxEnv (.done 0 out)) ep none = (c.decode o s.rsp).map fun v => ⟨0, some v, s.sent, s.st⟩ := by
  have hioctl : mailboxIoctl (mailboxEnv (.done 0 out)) ep.fd (c.rspSz o - 12) = .done 0 (out.take sz) := by
    rw [hsz, Nat.add_sub_cancel_left, mailboxIoctl, if_neg (not_lt.mpr hep.opened), mailboxEnv, u32_of_lt sz hlt]
  have hsends := goesOut_sends o ep hep (.done 0 out) c pl hc
  have h0 : (sendIoctlDirect (mailboxEnv (.done 0 out)) ep.fd (armCciRequest o ep c.set c.cmd pl).1
      (c.rspSz o)).rc = 0 := by
    rw [sendIoctlDirect, hioctl]
    rfl
  have hreturned : returned (mailboxEnv (.done 0 out)) ep none c.set c.cmd (c.rspSz o) = out.take sz := by
    rw [returned, hep.transport]
    exact congrArg mailboxOut hioctl
  have hleaves : ∀ s, c.Sends o (mailboxEnv (.done 0 out)) ep none pl s → s.rc = 0 →
      Leaves s.rsp (out.take sz) (12 + sz) := by
    intro s hs hrc
    rw [← hreturned, ← hsz]
    exact (c.sends_leaves o _ ep none pl s hs hrc).1
  exact ⟨_, hleaves _ hsends h0, c.run_of_accepted o _ ep none pl _ hsends h0⟩

theorem vendorSpecific_goesOut : GoesOut (Commands.vendorSpecific (m.req o n)) o (m.encode o) := by
  have hdata : (m.encode o).isEmpty = false := List.isEmpty_eq_false_iff.mpr (m.encode_ne_nil o)
  have hset := m.opcode_set
  refine ⟨?_, rfl, rfl, ?_⟩
  · simp only [Commands.vendorSpecific, Message.req, hdata, Bool.not_false, beq_self_eq_true, Bool.and_true]
    exact decide_eq_true (by omega)
  · -- the vendor command set is none of the FM-API's
    rw [show (Commands.vendorSpecific (m.req o n)).set = 0xCC from Fin.ext hset]
    rfl

include hep in
/-- The result and the padded reply that the caller's buffer is filled with. -/
theorem libraryReply_eq (hn : n ≠ 0) (hlt : n < 2 ^ 32) : libraryReply o ep m n x =
    match x with
    | .error => ⟨-1, []⟩
    | .done retval out => if retval ≠ 0 then ⟨retval.val, []⟩ else ⟨0, fillBuf n (out.take n)⟩ := by
  have hsends := goesOut_sends o ep hep x _ _ (vendorSpecific_goesOut o m n)
  have hsz : (Commands.vendorSpecific (m.req o n)).rspSz o = 12 + n := by
    simp only [Commands.vendorSpecific, Message.req, bne_iff_ne, ne_eq, hn, not_false_eq_true, if_true]
  have hfd : ¬ep.fd < 0 := not_lt.mpr hep.opened
  rw [libraryReply, CciCommand.run_of_sends _ _ _ _ _ _ _ hsends]
  rw [hsz]
  cases x with
  | error =>
    simp only [sendIoctlDirect, mailboxIoctl, hfd, if_false, mailboxEnv, Outcome.map]
    rfl
  | done retval out =>
    simp only [sendIoctlDirect, mailboxIoctl, hfd, if_false, mailboxEnv, Nat.add_sub_cancel_left, u32_of_lt n hlt]
    by_cases hrc : retval = 0
    · have hfit : (out.take n).length ≤ n := List.length_take_le n out
      have hpayload : ∀ pl : Bytes, pl.length = 3 →
          payload (mailboxRsp (12 + n) pl (out.take n)) = fillBuf n (out.take n) := by
        intro pl hpl
        rw [payload, mailboxRsp, Nat.add_sub_cancel_left]
        refine List.drop_left' ?_
        simp only [List.length_append, zeros_length, hpl]
      simp only [hrc, ne_eq, not_true_eq_false, if_false, Outcome.map, CciCommand.finish, and_false,
        Commands.vendorSpecific, Message.req, bne_iff_ne, hn, not_false_eq_true, if_true]
      rw [hpayload _ (leBytes_length _ _), copyOut, if_pos (by rw [fillBuf_length n _ hfit, Nat.zero_add]),
        slice_self _ _ (fillBuf_length n _ hfit)]
      rfl
    · simp only [hrc, ne_eq, not_false_eq_true, if_true, Outcome.map]
      rw [CciCommand.finish_failed _ _ _ rfl fun h => hrc (Fin.ext (Int.ofNat_eq_zero.mp h))]
      rfl

end Library

/-! ### Dialogues on a mailbox -/

/-- What is heard: for a vendor command, how its ioctl ended. -/
abbrev MailboxAnswer : SysCall → Type
  | .vendor _ _ => IoctlResult
  | q => q.Answer

def libraryAnswer (o : ByteOrder) (ep : Endpoint) : (q : SysCall) → MailboxAnswer q → q.Answer
  | .vendor m n, x => libraryReply o ep m n x
  | .fseekEnd, b => b
  | .ftell, b => b
  | .fseekSet _, b => b
  | .fread _ _, b => b
  | .fopenWrite _, b => b
  | .fwrite _, b => b
  | .calloc _, b => b
  | .clockGettime, now => now
  | .usleep _, u => u
  | .transferFw _, rc => rc

/-- A tool together with the library, on the endpoint `ep`. -/
def onMailbox {α : Type} (o : ByteOrder) (ep : Endpoint) (p : Tool α) : Program SysCall MailboxAnswer α :=
  p.handle (libraryAnswer o ep)

abbrev MailboxLog := History SysCall MailboxAnswer

def outerReply : Event SysCall MailboxAnswer → Option IoctlResult
  | ⟨.vendor _ _, x⟩ => some x
  | _ => none

/-- How the ioctls of a run ended. -/
def outerReplies (t : MailboxLog) : List IoctlResult := t.filterMap outerReply

def repliesAfter (xs : List IoctlResult) (e : Event SysCall MailboxAnswer) : List IoctlResult :=
  match outerReply e with
  | some x => xs ++ [x]
  | none => xs

/-- All ioctls end as `R` says, and nothing else is relied on. -/
def hearing (R : IoctlResult → Prop) : Contract SysCall MailboxAnswer (List IoctlResult) where
  next := repliesAfter
  rely _ q :=
    match q with
    | .vendor _ _ => fun x => R x
    | _ => fun _ => True
  guarantee _ _ := True

def Hears {α : Type} (o : ByteOrder) (ep : Endpoint) (R : IoctlResult → Prop) (p : Tool α)
    (post : α → List IoctlResult → Prop) (xs : List IoctlResult) : Prop :=
  (onMailbox o ep p).Meets (hearing R) post xs

section Rules
variable {o : ByteOrder} {ep : Endpoint} {R : IoctlResult → Prop} {α β σ : Type} {xs : List IoctlResult}

theorem hears_ret {a : α} {post : α → List IoctlResult → Prop} (h : post a xs) :
    Hears o ep R (pure a : Tool α) post xs := h

theorem hears_mono {p : Tool α} {post post' : α → List IoctlResult → Prop} (hp : Hears o ep R p post xs)
    (himp : ∀ a ys, post a ys → post' a ys) : Hears o ep R p post' xs :=
  meets_mono (hearing R) (onMailbox o ep p) post post' xs hp himp

theorem hears_bind {p : Tool α} {g : α → Tool β} {post : β → List IoctlResult → Prop}
    (hp : Hears o ep R p (fun a ys => Hears o ep R (g a) post ys) xs) : Hears o ep R (p >>= g) post xs := by
  rw [Hears, onMailbox, handle_bind]
  exact meets_bind (hearing R) _ _ post xs hp

theorem hears_vendor {m : Message} {n : ℕ} {post : VendorReply → List IoctlResult → Prop}
    (hpost : ∀ x, R x → post (libraryReply o ep m n x) (xs ++ [x])) : Hears o ep R (vendorCall m n) post xs :=
  ⟨trivial, hpost⟩

theorem hears_iterate {body : σ → Tool (σ ⊕ α)} (inv : σ → List IoctlResult → Prop)
    (post : α → List IoctlResult → Prop) (hbody : ∀ s ys, inv s ys → Hears o ep R (body s) (Sum.elim inv post) ys)
    (n : ℕ) (s : σ) (hs : inv s xs) :
    Hears o ep R (iterate body n s) (fun r ys => ∀ a, r = some a → post a ys) xs := by
  rw [Hears, onMailbox, handle_iterate]
  refine meets_mono (hearing R) _ _ _ xs (meets_iterate (hearing R) _ inv post (fun s ys hs => ?_) n s xs hs) ?_
  · refine meets_mono (hearing R) _ _ _ ys (hbody s ys hs) fun r zs hr => ?_
    cases r with
    | inl s' => exact hr
    | inr a => exact hr
  · intro r ys hr a ha
    rw [ha] at hr
    exact hr

/-- A call that may fail, and that the device does not see. -/
theorem hears_attempt {call : Tool Bool} {failed next : Tool α} {post : α → List IoctlResult → Prop}
    (hcall : Hears o ep R call (fun _ ys => ys = xs) xs) (hfailed : Hears o ep R failed post xs)
    (hnext : Hears o ep R next post xs) : Hears o ep R (checked call failed next) post xs := by
  refine hears_bind (hears_mono hcall fun b ys hys => ?_)
  rw [hys]
  cases b with
  | false => exact hfailed
  | true => exact hnext

theorem hears_fread (f : File) (pos len : ℕ) : Hears o ep R (f.fread pos len) (fun _ ys => ys = xs) xs :=
  hears_bind ⟨trivial, fun _ _ => rfl⟩

theorem foldl_repliesAfter (t : MailboxLog) : t.foldl repliesAfter xs = xs ++ outerReplies t := by
  induction t generalizing xs with
  | nil => exact (List.append_nil xs).symm
  | cons e t ih =>
    rw [List.foldl_cons, ih, repliesAfter, outerReplies, outerReplies, List.filterMap_cons]
    cases outerReply e with
    | none => rfl
    | some x => exact List.append_assoc xs [x] _

theorem hearing_kept (t : MailboxLog) (h : ∀ x ∈ outerReplies t, R x) : (hearing R).Kept xs t := by
  induction t generalizing xs with
  | nil => trivial
  | cons e t ih =>
    obtain ⟨q, a⟩ := e
    cases q with
    | vendor m n =>
      obtain ⟨hfirst, hrest⟩ := List.forall_mem_cons.mp h
      exact ⟨hfirst, ih hrest⟩
    | _ => exact ⟨trivial, ih h⟩

theorem hears_sound {p : Tool α} {post : α → List IoctlResult → Prop} (hp : Hears o ep R p post []) (t : MailboxLog)
    (r : α) (hr : (onMailbox o ep p).Runs t r) (ht : ∀ x ∈ outerReplies t, R x) : post r (outerReplies t) := by
  have hpost := (meets_sound (hearing R) _ post [] t r hp hr (hearing_kept t ht)).2
  change post r (t.foldl repliesAfter []) at hpost
  rwa [foldl_repliesAfter] at hpost

end Rules

end LibCxlmi.Tools
