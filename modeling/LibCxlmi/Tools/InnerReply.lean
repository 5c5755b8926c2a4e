import LibCxlmi.Tools.Mailbox
import LibCxlmi.Tools.SdbTunnel

/-!
# Success with an inner reply

A command in the sideband tunnel has succeeded if its reply carries a whole
inner header with a return code that says so. The tools read that code out of a
zeroed buffer, so that a reply that is too short reads as success, and
transfer-fw takes a background operation of the outer command for one of the
inner. With replies for which neither happens, what is reported is what the
device said.
-/

namespace LibCxlmi.Tools
open LibCxlmi.Word LibCxlmi.Transport LibCxlmi.Dialogue

/-! ### The property -/

/-- What the tools take a command's result for. -/
def outerCode (o : ByteOrder) : IoctlResult → ℤ
  | .error => -1
  | .done retval out => if retval ≠ 0 then retval.val else (innerReturnCode o (fillBuf 16 out) : ℤ)

/-- The reply has all of the tunnel header and the inner CCI header. -/
def WholeReply (x : IoctlResult) : Prop := ∃ out, x = .done 0 out ∧ 16 ≤ out.length

def InnerSuccess (o : ByteOrder) (ok : ℤ → Bool) (x : IoctlResult) : Prop :=
  ∃ out, x = .done 0 out ∧ 16 ≤ out.length ∧ ok (innerReturnCode o out) = true

/-- A reply that reads as success is whole. -/
def Backed (o : ByteOrder) (ok : ℤ → Bool) (x : IoctlResult) : Prop := ok (outerCode o x) = true → WholeReply x

def zeroOk (rc : ℤ) : Bool := rc == 0

def SdbKind.ok : SdbKind → ℤ → Bool
  | .transferFw => xferFwOk
  | _ => zeroOk

/-- Whatever the size of the buffer, the missing bytes are zeros. -/
theorem innerReturnCode_fillBuf (o : ByteOrder) (n : ℕ) (d : Bytes) :
    innerReturnCode o (fillBuf n d) = innerReturnCode o d := by
  simp only [innerReturnCode, Cci.returnCode, slice_drop, slice_fillBuf]

theorem innerReturnCode_take (o : ByteOrder) (n : ℕ) (d : Bytes) (hn : 16 ≤ n) :
    innerReturnCode o (d.take n) = innerReturnCode o d := by
  simp only [innerReturnCode, Cci.returnCode, slice_drop]
  rw [slice_take d n _ _ (by omega)]

theorem Backed.innerSuccess (o : ByteOrder) (ok : ℤ → Bool) (x : IoctlResult) (h : Backed o ok x)
    (hok : ok (outerCode o x) = true) : InnerSuccess o ok x := by
  obtain ⟨out, rfl, hlen⟩ := h hok
  rw [outerCode, if_neg (not_not.mpr rfl), innerReturnCode_fillBuf] at hok
  exact ⟨out, rfl, hlen, hok⟩

/-- What all replies of a run have to be for it to return 0. -/
def Confirmed (o : ByteOrder) (ok : ℤ → Bool) (xs : List IoctlResult) : Prop := ∀ x ∈ xs, InnerSuccess o ok x

def Backs (o : ByteOrder) (ok : ℤ → Bool) (e : End) (xs : List IoctlResult) : Prop :=
  e = .returned 0 → Confirmed o ok xs

/-! ### Single commands -/

section Rules
variable {o : ByteOrder} {ep : Endpoint} (hep : IsMailbox ep) {R : IoctlResult → Prop} {ok : ℤ → Bool}
  (hR : ∀ x, R x → Backed o ok x) {xs : List IoctlResult}

include hR in
theorem confirmed_append (h : Confirmed o ok xs) (x : IoctlResult) (hx : R x) (hok : ok (outerCode o x) = true) :
    Confirmed o ok (xs ++ [x]) :=
  List.forall_mem_append.mpr ⟨h, List.forall_mem_singleton.mpr ((hR x hx).innerSuccess o ok x hok)⟩

theorem backs_failed (rc : ℤ) (h : rc ≠ 0) : Backs o ok (.returned rc) xs :=
  fun hrc => absurd (End.returned.inj hrc) h

include hep in
/-- What `vendor_specific` leaves in the tool's buffers reads as `outerCode` says. -/
theorem outerCode_eq (m : Message) (n : ℕ) (hn : 16 ≤ n) (hlt : n < 2 ^ 32) (x : IoctlResult) (a : VendorReply)
    (ha : libraryReply o ep m n x = a) : outerCode o x =
      if a.rc ≠ 0 then a.rc
      else (innerReturnCode o (if a.rc = 0 then fillBuf n (a.data.take n) else zeros n) : ℤ) := by
  rw [libraryReply_eq o ep hep m n x (by omega) hlt] at ha
  cases x with
  | error =>
    subst ha
    rfl
  | done retval out =>
    dsimp only at ha
    by_cases hrc : retval = 0
    · rw [if_neg (not_not.mpr hrc)] at ha
      subst ha
      rw [outerCode, if_neg (not_not.mpr hrc), if_neg (not_not.mpr rfl), if_pos rfl]
      simp only [innerReturnCode_fillBuf, innerReturnCode_take o n _ hn]
    · have hne : (retval.val : ℤ) ≠ 0 := fun h => hrc (Fin.ext (Int.ofNat_eq_zero.mp h))
      rw [if_pos hrc] at ha
      subst ha
      rw [outerCode, if_pos hrc, if_pos hne]

include hep in
theorem hears_vendorSpecific (m : Message) (n : ℕ) (hn : 16 ≤ n) (hlt : n < 2 ^ 32)
    {post : ℤ × Bytes → List IoctlResult → Prop}
    (hpost : ∀ x rc rsp, R x → outerCode o x = (if rc ≠ 0 then rc else (innerReturnCode o rsp : ℤ)) →
      post (rc, rsp) (xs ++ [x])) : Hears o ep R (vendorSpecific m n) post xs :=
  hears_bind (hears_vendor fun x hx => hears_ret (hpost x _ _ hx (outerCode_eq hep m n hn hlt x _ rfl)))

include hep in
theorem hears_sdbTunnelSend (m : Message) {post : ℤ → List IoctlResult → Prop}
    (hpost : ∀ x, R x → post (outerCode o x) (xs ++ [x])) : Hears o ep R (sdbTunnelSend o m) post xs := by
  refine hears_bind (hears_vendorSpecific hep m 16 (Nat.le_refl _) (by decide) fun x rc rsp hx hcode => hears_ret ?_)
  rw [← hcode]
  exact hpost x hx

include hep in
/-- The exchange comes back with 0 only if the reply reads as success. -/
theorem hears_exchange (port : Byte) (r : VuRequest) (n : ℕ) (hlt : 16 + n < 2 ^ 32)
    {post : ℤ × Bytes → List IoctlResult → Prop} (hfail : ∀ rsp, post (-1, rsp) xs)
    (hpost : ∀ x rc rsp, R x → (rc = 0 → outerCode o x = 0) → post (rc, rsp) (xs ++ [x])) :
    Hears o ep R (sdbVuTunnelExchange o port r n) post xs := by
  refine hears_attempt ⟨trivial, fun _ _ => rfl⟩ (hears_ret (hfail _)) ?_
  refine hears_attempt ⟨trivial, fun _ _ => rfl⟩ (hears_ret (hfail _)) ?_
  refine hears_bind (hears_vendorSpecific hep _ _ (by omega) hlt fun x rc rsp hx hcode => ?_)
  dsimp only
  split_ifs with hrc hinner
  · exact hears_ret (hpost x _ _ hx fun h => absurd h hrc)
  · exact hears_ret (hpost x _ _ hx fun h => absurd (Int.ofNat_eq_zero.mp h) hinner)
  · refine hears_ret (hpost x _ _ hx fun _ => ?_)
    rw [hcode, if_neg hrc, not_not.mp hinner]
    rfl

/-! ### Files in chunks -/

/-- Each chunk that was taken was confirmed. -/
theorem hears_sendChunks (k : ChunkSender) (f : File) (chunkSize numChunks : ℕ)
    (hsend : ∀ c ys, Confirmed o ok ys → Hears o ep R (k.send c) (fun rc zs => k.ok rc = true → Confirmed o ok zs) ys)
    (h0 : k.ok 0 = true) (left pos : ℕ) (rc : ℤ) (h : Confirmed o ok xs) :
    Hears o ep R (sendChunks k f chunkSize numChunks left pos rc) (fun rc ys => rc = 0 → Confirmed o ok ys) xs := by
  induction left generalizing pos rc xs with
  | zero => exact hears_ret fun _ => h
  | succ left ih =>
    refine hears_attempt (hears_fread f _ _) (hears_ret fun _ => h) ?_
    refine hears_bind (hears_mono (hsend _ xs h) fun rc' ys hys => ?_)
    split_ifs with hok
    · exact ih _ rc' (hys hok)
    · refine hears_ret fun hrc => absurd ?_ hok
      rw [hrc]
      exact h0

theorem hears_sendFile (k : ChunkSender) (disk : Disk) (inputFile : String) (chunkSize : U 32)
    (hsend : ∀ c ys, Confirmed o ok ys → Hears o ep R (k.send c) (fun rc zs => k.ok rc = true → Confirmed o ok zs) ys)
    (h0 : k.ok 0 = true) (h : Confirmed o ok xs) :
    Hears o ep R (sendFile k disk inputFile chunkSize) (Backs o ok) xs := by
  have hfail : Hears o ep R (return .returned (-1) : Tool End) (Backs o ok) xs := hears_ret fun _ => h
  unfold sendFile
  cases disk inputFile with
  | none => exact hfail
  | some f =>
    refine hears_attempt ⟨trivial, fun _ _ => rfl⟩ hfail (hears_attempt ⟨trivial, fun _ _ => rfl⟩ hfail ?_)
    by_cases hempty : f.size = 0
    · rw [if_pos hempty]
      exact hfail
    · rw [if_neg hempty]
      refine hears_attempt ⟨trivial, fun _ _ => rfl⟩ hfail ?_
      unfold sendOpened
      split_ifs
      · exact hears_ret fun he => nomatch he
      · refine hears_attempt ⟨trivial, fun _ _ => rfl⟩ hfail (hears_bind ?_)
        refine hears_mono (hears_sendChunks k f _ _ hsend h0 _ _ _ h) fun rc ys hys => hears_ret fun he => hys ?_
        exact End.returned.inj he

/-! ### Subcommands -/

theorem confirmed_nil : Confirmed o ok [] := List.forall_mem_nil _

include hep hR in
theorem hears_reported (m : Message) (h : Confirmed o ok xs) :
    Hears o ep R (sdbTunnelSend o m) (fun rc ys => ok rc = true → Confirmed o ok ys) xs :=
  hears_sdbTunnelSend hep m fun x hx hok => confirmed_append hR h x hx hok

end Rules

section Subcommands
variable {o : ByteOrder} {ep : Endpoint} (hep : IsMailbox ep) {R : IoctlResult → Prop}

include hep in
theorem hears_transferFw (hR : ∀ x, R x → Backed o xferFwOk x) (disk : Disk) (args : List String) :
    Hears o ep R (sdbTunnelTransferFw o disk args) (Backs o xferFwOk) [] := by
  unfold sdbTunnelTransferFw
  cases (sdbArgs args).bind fun a => (parseTransferFwReq a.2).map fun params => (a.1, params) with
  | none => exact hears_ret fun _ => confirmed_nil
  | some a =>
    refine hears_sendFile _ disk _ _ (fun c ys hys => ?_) rfl confirmed_nil
    exact hears_attempt ⟨trivial, fun _ _ => rfl⟩ (hears_ret fun _ => hys) (hears_reported hep hR _ hys)

variable (hR : ∀ x, R x → Backed o zeroOk x) {xs : List IoctlResult}

include hep hR in
theorem hears_vuExchange (port : Byte) (r : VuRequest) (n : ℕ) (hlt : 16 + n < 2 ^ 32) :
    Hears o ep R (sdbVuTunnelExchange o port r n) (fun a ys => Confirmed o zeroOk xs → a.1 = 0 → Confirmed o zeroOk ys)
      xs := by
  refine hears_exchange hep port r n hlt (fun _ h _ => h) fun x rc rsp hx hcode h hrc => ?_
  exact confirmed_append hR h x hx (beq_iff_eq.mpr (hcode hrc))

include hep hR in
theorem hears_vuSend (port : Byte) (r : VuRequest) :
    Hears o ep R ((Via.sdb port).send o r) (fun rc ys => Confirmed o zeroOk xs → rc = 0 → Confirmed o zeroOk ys) xs :=
  hears_bind (hears_mono (hears_vuExchange hep hR port r 0 (by decide)) fun _ _ hys => hears_ret hys)

include hep hR in
theorem hears_vuWindow (port : Byte) (body : Tool End)
    (hbody : ∀ ys, Confirmed o zeroOk ys → Hears o ep R body (Backs o zeroOk) ys) :
    Hears o ep R (vuWindow o (.sdb port) body) (Backs o zeroOk) [] := by
  refine hears_bind (hears_mono (hears_vuSend hep hR port vuunlock) fun rc ys hys => ?_)
  split_ifs with hrc
  · exact hears_ret (backs_failed rc hrc)
  · refine hears_bind (hears_mono (hbody ys (hys confirmed_nil (not_not.mp hrc))) fun e zs hzs => ?_)
    cases e with
    | undefined => exact hears_ret fun he => nomatch he
    | running => exact hears_ret fun he => nomatch he
    | returned rc =>
      refine hears_bind (hears_mono (hears_vuSend hep hR port vulock) fun lockRc ws hws => hears_ret fun he => ?_)
      have hzero := End.returned.inj he
      split_ifs at hzero with h0
      · exact hws (hzs (congrArg End.returned h0)) hzero
      · exact absurd hzero h0

include hep hR in
theorem hears_vuOnce (parse : List String → Option VuRequest) (args : List String) :
    Hears o ep R (sdbTunnelVuOnce o parse args) (Backs o zeroOk) [] := by
  unfold sdbTunnelVuOnce
  cases (sdbArgs args).bind fun a => (parse a.2).map fun r => (a.1, r) with
  | none => exact hears_ret fun _ => confirmed_nil
  | some a =>
    refine hears_vuWindow hep hR a.1 _ fun ys hys => hears_bind ?_
    refine hears_mono (hears_vuExchange hep hR a.1 a.2 0 (by decide)) fun r zs hzs => hears_ret fun he => ?_
    exact hzs hys (End.returned.inj he)

include hep hR in
theorem hears_vuDlcfg (disk : Disk) (args : List String) :
    Hears o ep R (sdbTunnelVuDlcfg o disk args) (Backs o zeroOk) [] := by
  unfold sdbTunnelVuDlcfg
  cases (sdbArgs args).bind fun a => (parseVuDlcfgReq a.2).map fun params => (a.1, params) with
  | none => exact hears_ret fun _ => confirmed_nil
  | some a =>
    refine hears_vuWindow hep hR a.1 _ fun ys hys => hears_sendFile _ disk _ _ (fun c zs hzs => ?_) rfl hys
    exact hears_mono (hears_vuSend hep hR a.1 _) fun rc ws hws hok => hws hzs (beq_iff_eq.mp hok)

/- A round that goes on, and one that ends the loop with 0, was answered with 0. -/
include hep hR in
theorem hears_getcfgRound (port : Byte) (offset : U 32) (h : Confirmed o zeroOk xs) :
    Hears o ep R (getcfgRound o (.sdb port) offset)
      (Sum.elim (fun _ => Confirmed o zeroOk) fun rc ys => rc = 0 → Confirmed o zeroOk ys) xs := by
  have hexchange : Hears o ep R (sdbVuTunnelExchange o port (getcfgRequest offset) 520) _ xs :=
    hears_vuExchange hep hR port (getcfgRequest offset) 520 (by decide)
  refine hears_bind (hears_mono hexchange fun a ys hys => ?_)
  obtain ⟨rc, out⟩ := a
  dsimp only
  by_cases hrc : rc = 0
  · have hconfirmed := hys h hrc
    rw [if_neg (not_not.mpr hrc)]
    split_ifs
    · exact hears_ret fun _ => hconfirmed
    · exact hears_ret hconfirmed
    · exact hears_ret fun _ => hconfirmed
    · exact hears_attempt ⟨trivial, fun _ _ => rfl⟩ (hears_ret fun _ => hconfirmed) (hears_ret hconfirmed)
    · exact hears_attempt ⟨trivial, fun _ _ => rfl⟩ (hears_ret fun _ => hconfirmed) (hears_ret fun _ => hconfirmed)
  · rw [if_pos hrc]
    exact hears_ret fun h0 => absurd h0 hrc

include hep hR in
theorem hears_vuGetdevcfg (rounds : ℕ) (args : List String) :
    Hears o ep R (sdbTunnelVuGetdevcfg o rounds args) (Backs o zeroOk) [] := by
  unfold sdbTunnelVuGetdevcfg
  cases (sdbArgs args).bind fun a => (parseVuGetdevcfgReq a.2).map fun file => (a.1, file) with
  | none => exact hears_ret fun _ => confirmed_nil
  | some a =>
    refine hears_vuWindow hep hR a.1 _ fun ys hys => ?_
    refine hears_attempt ⟨trivial, fun _ _ => rfl⟩ (hears_ret fun _ => hys) (hears_bind ?_)
    refine hears_mono (hears_iterate (fun _ => Confirmed o zeroOk) (fun rc zs => rc = 0 → Confirmed o zeroOk zs)
      (fun off zs hzs => hears_getcfgRound hep hR a.1 off hzs) rounds 0 hys) fun r zs hr => ?_
    cases r with
    | none => exact hears_ret fun he => nomatch he
    | some rc => exact hears_ret fun he => hr rc rfl (End.returned.inj he)

include hep hR in
theorem hears_clearEventRecords (args : List String) :
    Hears o ep R (sdbTunnelClearEventRecords o args) (Backs o zeroOk) [] := by
  unfold sdbTunnelClearEventRecords
  cases (clearEventOptions args ⟨0, none, false, []⟩).bind fun a =>
      (a.log.bind parseEventLogLocal).map fun log => (a.port, clearEventPayload o log a) with
  | none => exact hears_ret fun _ => confirmed_nil
  | some a =>
    refine hears_attempt ⟨trivial, fun _ _ => rfl⟩ (hears_ret fun _ => confirmed_nil) (hears_bind ?_)
    refine hears_mono (hears_reported hep hR _ confirmed_nil) fun rc ys hys => hears_ret fun he => hys ?_
    exact beq_iff_eq.mpr (End.returned.inj he)

include hep hR in
theorem hears_table (port : Byte) (p : SetFeatureParams) :
    Hears o ep R (p.table o port) (Sum.elim (Backs o zeroOk) fun _ => Confirmed o zeroOk) [] := by
  unfold SetFeatureParams.table
  split_ifs
  · refine hears_attempt ⟨trivial, fun _ _ => rfl⟩ (hears_ret fun _ => confirmed_nil) (hears_bind ?_)
    refine hears_attempt ⟨trivial, fun _ _ => rfl⟩ (hears_ret (hears_ret fun _ => confirmed_nil)) (hears_bind ?_)
    refine hears_vendorSpecific hep _ _ (by decide) (by decide) fun x rc rsp hx hcode => ?_
    dsimp only
    split_ifs with hrc hinner
    · exact hears_ret (hears_ret (backs_failed rc hrc))
    · exact hears_ret (hears_ret (backs_failed _ fun h => hinner (Int.ofNat_eq_zero.mp h)))
    · have hzero : zeroOk (outerCode o x) = true := by
        rw [hcode, if_neg hrc, not_not.mp hinner]
        rfl
      have hconfirmed := confirmed_append hR confirmed_nil x hx hzero
      cases sdbParseSupportedFeaturesRsp o (rsp.drop 16) with
      | none => exact hears_ret (hears_ret fun he => nomatch he)
      | some sfrsp => exact hears_ret (hears_ret hconfirmed)
  · exact hears_ret confirmed_nil

include hep hR in
theorem hears_setFeature (disk : Disk) (port : Byte) (p : SetFeatureParams) :
    Hears o ep R (sdbTunnelSetFeature o disk port p) (Backs o zeroOk) [] := by
  refine hears_bind (hears_mono (hears_table hep hR port p) fun r ys hr => ?_)
  cases r with
  | inl e => exact hears_ret hr
  | inr sfrsp =>
    dsimp only
    cases p.request o disk sfrsp with
    | none => exact hears_ret fun _ => hr
    | some payload =>
      refine hears_attempt ⟨trivial, fun _ _ => rfl⟩ (hears_ret fun _ => hr) (hears_bind ?_)
      refine hears_mono (hears_reported hep hR _ hr) fun rc zs hzs => hears_ret fun he => hzs ?_
      exact beq_iff_eq.mpr (End.returned.inj he)

end Subcommands

end LibCxlmi.Tools
