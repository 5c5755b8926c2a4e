import LibCxlmi.Tools.Windows

/-!
# Inside the windows

What the VU subcommands send between unlock and lock: single requests, the
chunks of a configuration, the pieces of one that is read back. The union
download opens a window for each action.
-/

namespace LibCxlmi.Tools
open LibCxlmi.Word LibCxlmi.Dialogue

/-! ### Requests -/

/-- The subcommand's own request is none of the two that open and close. -/
def Requests (parse : List String → Option VuRequest) : Prop := ∀ args r, parse args = some r → r.kind = .data

theorem requests_evtadd : Requests parseVuEvtadd := by
  intro args r h
  obtain ⟨p, -, h⟩ := Option.bind_eq_some_iff.mp h
  obtain ⟨loglvl, -, h⟩ := Option.bind_eq_some_iff.mp h
  obtain ⟨intfmask, -, h⟩ := Option.bind_eq_some_iff.mp h
  obtain ⟨count, -, h⟩ := Option.bind_eq_some_iff.mp h
  split_ifs at h
  rw [← Option.some.inj h]
  rfl

theorem requests_ddrdbt : Requests parseVuDdrdbt := by
  intro args r h
  obtain ⟨enable, -, rfl⟩ := Option.map_eq_some_iff.mp h
  rfl

theorem requests_dimminfo : Requests parseVuDimminfo := by
  intro args r h
  obtain ⟨dimm, -, rfl⟩ := Option.map_eq_some_iff.mp h
  rfl

theorem requests_ddrdparw : Requests parseVuDdrdparw := by
  intro args r h
  obtain ⟨p, -, h⟩ := Option.bind_eq_some_iff.mp h
  obtain ⟨op, -, h⟩ := Option.bind_eq_some_iff.mp h
  obtain ⟨dpa, -, rfl⟩ := Option.map_eq_some_iff.mp h
  rfl

theorem requests_eccrmwinj : Requests parseVuEccrmwinj := by
  intro args r h
  obtain ⟨p, -, h⟩ := Option.bind_eq_some_iff.mp h
  obtain ⟨op, -, h⟩ := Option.bind_eq_some_iff.mp h
  unfold eccRequest at h
  cases hmode : eccMode p with
  | none =>
    rw [hmode] at h
    cases h
  | _ =>
    rw [hmode] at h
    dsimp only at h
    try split_ifs at h
    all_goals
      rw [← Option.some.inj h]
      rfl

theorem requests_ddrfreq : Requests ddrfreqRequest := by
  intro args r h
  obtain ⟨freq, -, rfl⟩ := Option.map_eq_some_iff.mp h
  rfl

theorem requests_pciespeed : Requests parseVuPciespeedReq := by
  intro args r h
  obtain ⟨p, -, h⟩ := Option.bind_eq_some_iff.mp h
  obtain ⟨portid, -, h⟩ := Option.bind_eq_some_iff.mp h
  obtain ⟨speed, -, h⟩ := Option.bind_eq_some_iff.mp h
  obtain ⟨width, -, rfl⟩ := Option.map_eq_some_iff.mp h
  rfl

/-! ### Inside a window -/

section Bodies
variable (o : ByteOrder) (v : Via)

theorem keeps_sendChunks (cfgType : U 32) (f : File) (chunkSize numChunks left pos : ℕ) (rc : ℤ) (xs : Calls)
    (h : Orderly o true xs) :
    Keeps (vuContract v.tunnelled) (sendChunks (dlcfgSender cfgType (v.send o)) f chunkSize numChunks left pos rc)
      (fun _ ys => Orderly o true ys) xs := by
  induction left generalizing pos rc xs with
  | zero => exact keeps_ret _ _ _ _ h
  | succ left ih =>
    refine keeps_attempt _ _ _ _ _ xs (quiet_fread _ f _ _) (keeps_ret _ _ _ _ h) ?_
    refine keeps_bind _ _ _ _ xs (keeps_send o v _ _ xs fun x => ?_)
    have hsent := h.data o xs (v.message (dlcfgRequest cfgType ⟨numChunks - (left + 1), numChunks,
      chunkOffset chunkSize (numChunks - (left + 1)), f.read pos (chunkLen f chunkSize (numChunks - (left + 1)))⟩)) x
      (kind_message v _)
    split_ifs
    · exact ih _ _ _ hsent
    · exact keeps_ret _ _ _ _ hsent

/-- For a file that is opened and not empty, the number of chunks can be computed. -/
def DivisionOk (disk : Disk) (params : String × U 32 × U 32) : Prop :=
  ∀ f, disk params.1 = some f → f.size ≠ 0 → ¬(params.2.2 = 0 ∨ 2 ^ 63 ≤ f.size + params.2.2.val)

theorem keeps_vuDlcfgFile (disk : Disk) (params : String × U 32 × U 32) (hdiv : DivisionOk disk params) (xs : Calls)
    (h : Orderly o true xs) : Keeps (vuContract v.tunnelled) (vuDlcfgFile disk params (v.send o)) (InWindow o) xs := by
  have hreturns : ∀ rc ys, Orderly o true ys →
      Keeps (vuContract v.tunnelled) (return .returned rc : Tool End) (InWindow o) ys :=
    fun _ _ hy => keeps_ret _ _ _ _ ⟨hy, nofun⟩
  have hfail := hreturns (-1) xs h
  unfold vuDlcfgFile sendFile
  cases hdisk : disk params.1 with
  | none => exact hfail
  | some f =>
    refine keeps_attempt _ _ _ _ _ xs (quiet_fseekEnd _) hfail ?_
    refine keeps_attempt _ _ _ _ _ xs (quiet_ftell _) hfail ?_
    by_cases hempty : f.size = 0
    · rw [if_pos hempty]
      exact hfail
    · rw [if_neg hempty, sendOpened, if_neg (hdiv f hdisk hempty)]
      refine keeps_attempt _ _ _ _ _ xs (quiet_fseekSet _ 0) hfail ?_
      refine keeps_attempt _ _ _ _ _ xs (quiet_calloc _ _) hfail ?_
      exact keeps_bind _ _ _ _ xs (keeps_mono _ _ _ _ xs (keeps_sendChunks o v params.2.1 f _ _ _ _ _ xs h) hreturns)

theorem keeps_getcfgRound (offset : U 32) (xs : Calls) (h : Orderly o true xs) :
    Keeps (vuContract v.tunnelled) (getcfgRound o v offset) (fun _ ys => Orderly o true ys) xs := by
  refine keeps_bind _ _ _ _ xs (keeps_exchange o v _ _ _ xs fun x rc out => ?_)
  have hsent := h.data o xs (v.message (getcfgRequest offset)) x (kind_message v _)
  have hnext : ∀ r, Keeps (vuContract v.tunnelled) (return r : Tool (U 32 ⊕ ℤ)) (fun _ ys => Orderly o true ys) _ :=
    fun r => keeps_ret _ r _ _ hsent
  dsimp only
  generalize (if hostWord o out 0 ≠ 0 then Sum.inl (offset + hostWord o out 4) else Sum.inr 0 : U 32 ⊕ ℤ) = next
  split_ifs
  · exact hnext _
  · exact hnext _
  · exact hnext _
  · exact keeps_attempt _ _ _ _ _ _ (quiet_fwrite _ _) (hnext _) (hnext _)

theorem keeps_vuGetdevcfgFetch (file : String) (rounds : ℕ) (xs : Calls) (h : Orderly o true xs) :
    Keeps (vuContract v.tunnelled) (vuGetdevcfgFetch o v file rounds) (InWindow o) xs := by
  refine keeps_attempt _ _ _ _ _ xs (quiet_fopenWrite _ file) (keeps_ret _ _ _ _ ⟨h, nofun⟩) ?_
  have hloop := keeps_iterate (vuContract v.tunnelled) (getcfgRound o v) (fun _ => Orderly o true)
    (fun _ => Orderly o true)
    (fun off ys hy => keeps_mono _ _ _ _ ys (keeps_getcfgRound o v off ys hy) fun r zs hz => by
      cases r with
      | inl off' => exact hz
      | inr rc => exact hz) rounds 0 xs h
  refine keeps_bind _ _ _ _ xs (keeps_mono _ _ _ _ xs hloop fun r ys hr => ?_)
  cases r with
  | none =>
    obtain ⟨_, hopen⟩ := hr
    exact keeps_ret _ _ _ _ ⟨hopen, nofun⟩
  | some rc => exact keeps_ret _ _ _ _ ⟨hr, nofun⟩

theorem keeps_sendOnce (r : VuRequest) (retSz : ℕ) (hr : r.kind = .data) :
    Keeps (vuContract v.tunnelled) (sendOnce o v r retSz) (fun e xs => WindowsKept o xs e) [] := by
  refine keeps_vuWindow o v _ fun xs h => keeps_bind _ _ _ _ xs (keeps_exchange o v r retSz _ xs fun x rc out => ?_)
  exact keeps_ret _ _ _ _ ⟨h.data o xs _ x ((kind_message v r).trans hr), nofun⟩

end Bodies

/-! ### The union download -/

section Union
variable (o : ByteOrder)

theorem sendResult_lock_failed (a : FwAction) (sp : U 32) (rc lockRc : ℤ) (rsp : FwdownloadOutput)
    (h : lockRc ≠ 0) : sendResult a sp rc lockRc rsp = -1 := by
  unfold sendResult
  by_cases hrc : rc = 0
  · rw [if_neg (not_not.mpr hrc), if_pos h]
  · rw [if_pos hrc]

/- Every action has its own window; a lock that failed there makes it fail. -/
theorem window_send (a : FwAction) (sp off seq : U 32) (pl : Bytes) (xs : Calls) (h : windowAfter o xs = some false) :
    SendKeeps (vuContract false) o a sp off seq pl (fun rc _ ys =>
      windowAfter o ys = some false ∧ (FailedLock o ys → FailedLock o xs ∨ rc = -1)) xs := by
  have hunlock : ∀ x, windowAfter o (xs ++ [(.vu vuunlock, x)]) = some (decide (x.rc = 0)) := fun x => by
    rw [windowAfter_append, h, windowStep_unlock o _ rfl]
    rfl
  have hnone : ∀ x, FailedLock o (xs ++ [(.vu vuunlock, x)]) ↔ FailedLock o xs :=
    fun x => failedLock_other o xs _ VuKind.noConfusion
  refine ⟨trivial, fun x _ => ⟨fun hx => ?_, fun hx => ⟨trivial, fun y _ => ⟨trivial, fun z _ => ?_⟩⟩⟩⟩
  · dsimp only
    rw [hunlock, decide_eq_false hx, hnone]
    exact ⟨rfl, Or.inl⟩
  · dsimp only
    rw [windowAfter_append, windowAfter_append, hunlock, decide_eq_true hx, windowStep_data o _ rfl,
      windowStep_lock o _ rfl, failedLock_append, failedLock_other o _ _ VuKind.noConfusion, hnone]
    refine ⟨rfl, Or.imp_right fun hz => ?_⟩
    exact sendResult_lock_failed a sp y.rc z.rc _ hz.2

theorem orderly_send (a : FwAction) (sp off seq : U 32) (pl : Bytes) (xs : Calls) (h : Orderly o false xs) :
    SendKeeps (vuContract false) o a sp off seq pl (fun rc _ ys =>
      windowAfter o ys = some false ∧ (rc ≠ -1 → Orderly o false ys)) xs := by
  refine sendKeeps_mono _ o a sp off seq pl _ _ xs (fun rc _ ys hy => ⟨hy.1, fun hrc => ⟨hy.1, fun hf => ?_⟩⟩)
    (window_send o a sp off seq pl xs h.window)
  exact (hy.2 hf).elim h.locks hrc

theorem windowsKept_failed (xs : Calls) (h : windowAfter o xs = some false) : WindowsKept o xs (.returned (-1)) :=
  ⟨h, fun _ => by decide⟩

theorem Orderly.kept (s : Bool) (xs : Calls) (h : Orderly o s xs) : WindowsKept o xs .running := by
  dsimp only [WindowsKept]
  rw [h.window]
  exact Option.some_ne_none _

def windowProof (f : File) (image : UnionImage) (partition : Option UnionPartition) :
    UnionProof (vuContract false) o f image partition (fun e xs => WindowsKept o xs e) where
  wait := Orderly o false
  accepted _ := Orderly o false
  inv _ _ := Orderly o false
  exit _ e xs := WindowsKept o xs (.returned e.rc) ∧ (e.abortNeeded = true → e.rc ≠ 0)
  waiting xs h := h.kept o false xs
  running _ _ xs h := h.kept o false xs
  early := windowsKept_failed o [] rfl
  start := orderly_nil o
  begin_send xs h := by
    refine sendKeeps_mono _ o _ _ _ _ _ _ _ xs (fun rc _ ys hy => ?_) (orderly_send o _ _ _ _ [] xs h)
    refine ⟨fun hrc => hy.2 ?_, fun hrc => hy.2 ?_, fun _ => windowsKept_failed o ys hy.1⟩
    · rw [hrc]
      decide
    · rw [hrc]
      decide
  rejected _ xs h _ := windowsKept_failed o xs h.window
  opened _ _ h _ := h
  round_fail _ _ xs h := ⟨windowsKept_failed o xs h.window, fun _ => (by decide : (-1 : ℤ) ≠ 0)⟩
  round_end _ _ xs rc h _ _ := ⟨⟨h.window, fun hf => absurd hf h.locks⟩, fun ha => absurd ha Bool.false_ne_true⟩
  round_send sid _ xs a off seq pl h _ := by
    refine sendKeeps_mono _ o a sid off seq pl _ _ xs (fun rc _ ys hy => ?_) (orderly_send o a sid off seq pl xs h)
    refine ⟨⟨windowsKept_failed o ys hy.1, fun _ => (by decide : (-1 : ℤ) ≠ 0)⟩, fun hrc => hy.2 ?_⟩
    rw [hrc]
    decide
  leave _ _ _ h _ := h.1
  abort sid e xs h ha := by
    refine sendKeeps_mono _ o .abort sid 0 0 [] _ _ xs (fun rc _ ys hy => ⟨hy.1, fun _ => h.2 ha.1⟩)
      (window_send o .abort sid 0 0 [] xs h.1.1)

end Union

end LibCxlmi.Tools
