import LibCxlmi.Tools.UnionExchange

/-!
# File sizes in union downloads

BEGIN carries the size of the file in 32 bits, and every later check is made
against these 32 bits. A file of 4 GiB or more is taken for its size modulo
2^32, and the download succeeds without the rest of it, unless nothing is left
of the size at all.
-/

namespace LibCxlmi.Tools
open LibCxlmi.Word LibCxlmi.Dialogue

/-- The size negotiated in BEGIN is that of the file, and the ranges the tool
would have served reach every byte of it. -/
def WholeImage (o : ByteOrder) (f : File) (xs : Exchanges) : Prop :=
  (∃ p, beginOf xs = some p ∧ p.1.arg3.val = f.size ∧ (responseOf o p.2).totalBytes.val = f.size) ∧
    ∀ i < f.size, ∃ off len : U 32, rangeOk f off len = true ∧ off.val ≤ i ∧ i < off.val + len.val

/-! ### What is negotiated -/

section Proof
variable (o : ByteOrder) (f : File)

def Negotiated (xs : Exchanges) : Prop :=
  ∃ p, beginOf xs = some p ∧ p.1.arg3 = size32 f ∧ (responseOf o p.2).totalBytes = size32 f

theorem beginOk_iff (rsp : FwdownloadOutput) : beginOk f rsp = true ↔
    rsp.sessionId ≠ 0 ∧ fwState rsp.state = .needData ∧ rsp.totalBytes = size32 f := by
  simp only [beginOk, Bool.and_eq_true, decide_eq_true_eq, and_assoc]

/- With a size of 0 modulo 2^32 no range can be served, and the session does not get past its first response. -/
theorem ActionDue.size_ne_zero (rsp : FwdownloadOutput) (a : FwAction) (off seq : U 32) (pl : Bytes)
    (h : ActionDue f rsp a off seq pl) (hstate : fwState rsp.state = .needData) : size32 f ≠ 0 := by
  cases h with
  | data _ hr =>
    obtain ⟨hpos, -, hend⟩ := (rangeOk_iff f _ _).mp hr
    intro hzero
    rw [hzero] at hend
    have hnone : rsp.nextOffset.val + rsp.nextLength.val ≤ 0 := hend
    omega
  | query hbusy =>
    rw [hstate] at hbusy
    exact absurd hbusy Bool.false_ne_true
  | finish hready => exact absurd (hstate.symm.trans hready) FwState.noConfusion

structure SizeInv (rsp : FwdownloadOutput) (xs : Exchanges) : Prop where
  negotiated : Negotiated o f xs
  first : size32 f = 0 → fwState rsp.state = .needData

structure SizeExit (e : UnionExit) (xs : Exchanges) : Prop where
  negotiated : Negotiated o f xs
  zero : e.rc = 0 → e.abortNeeded = false ∧ size32 f ≠ 0

def sizeProof (image : UnionImage) (partition : Option UnionPartition) :
    UnionProof anyContract o f image partition
      (fun e xs => e = .returned 0 → Negotiated o f (fwExchanges xs) ∧ size32 f ≠ 0) where
  wait _ := True
  accepted rsp xs := ∃ p, beginOf (fwExchanges xs) = some p ∧ p.1.arg3 = size32 f ∧ responseOf o p.2 = rsp
  inv _ rsp xs := SizeInv o f rsp (fwExchanges xs)
  exit _ e xs := SizeExit o f e (fwExchanges xs)
  waiting _ _ h := nomatch h
  running _ _ _ _ h := nomatch h
  early h := absurd (End.returned.inj h) (by decide)
  start := trivial
  begin_send xs _ := by
    have hcode := (isBeginRequest_code (beginAction image) (beginPartition image partition) (size32 f) 2016 []).trans
      (beginAction_isBegin image)
    have hrc : End.returned (-1) ≠ .returned 0 := by decide
    refine sendKeeps_exchange anyContract o _ _ _ _ _ (fun rc rsp ys =>
      (rc = 0 → ∃ p, beginOf ys = some p ∧ p.1.arg3 = size32 f ∧ responseOf o p.2 = rsp) ∧ (rc = 2 → True) ∧
        (rc ≠ 0 → End.returned (-1) = .returned 0 → Negotiated o f ys ∧ size32 f ≠ 0)) xs
      (fun _ => ⟨trivial, trivial⟩) (fun _ => trivial) ?_ fun x y lockRc _ => ?_
    · exact ⟨fun h => absurd h (by decide), fun _ => trivial, fun _ h => absurd h hrc⟩
    · exact ⟨fun _ => ⟨_, beginOf_begin _ _ y hcode, rfl, rfl⟩, fun _ => trivial, fun _ h => absurd h hrc⟩
  rejected _ _ _ _ h := absurd (End.returned.inj h) (by decide)
  opened rsp xs h hok := by
    obtain ⟨p, hp, hsize, rfl⟩ := h
    obtain ⟨-, hstate, htotal⟩ := (beginOk_iff f _).mp hok
    exact ⟨⟨p, hp, hsize, htotal⟩, fun _ => hstate⟩
  round_fail _ _ _ h := ⟨h.negotiated, fun h0 => absurd h0 (by decide : (-1 : ℤ) ≠ 0)⟩
  round_end _ rsp _ _ h hterm _ := by
    refine ⟨h.negotiated, fun _ => ⟨rfl, fun hzero => ?_⟩⟩
    rw [h.first hzero] at hterm
    exact Bool.false_ne_true hterm
  round_send sid rsp xs a off seq pl h hdue := by
    have hcode := (isBeginRequest_code a sid off seq pl).trans hdue.not_begin.1
    refine sendKeeps_exchange anyContract o a sid off seq pl (fun rc rsp' ys =>
      SizeExit o f ⟨-1, true, rsp'.state⟩ ys ∧ (rc = 0 → SizeInv o f rsp' ys)) xs (fun _ => ⟨trivial, trivial⟩)
      (fun _ => trivial) ?_ fun x y lockRc _ => ?_
    · exact ⟨⟨h.negotiated, fun h0 => absurd h0 (by decide)⟩, fun h0 => absurd h0 (by decide)⟩
    · have hneg : Negotiated o f (fwExchanges xs ++ [(fwdownloadRequest a sid off seq pl, y)]) := by
        rw [Negotiated, beginOf_other _ _ y hcode]
        exact h.negotiated
      exact ⟨⟨hneg, fun h0 => absurd h0 (by decide : (-1 : ℤ) ≠ 0)⟩, fun _ =>
        ⟨hneg, fun hzero => absurd hzero (hdue.size_ne_zero f rsp a off seq pl (h.first hzero))⟩⟩
  leave _ e _ h _ hret := ⟨h.negotiated, (h.zero (End.returned.inj hret)).2⟩
  abort sid e xs h ha := by
    have hno : e.rc ≠ 0 := fun h0 => Bool.false_ne_true ((h.zero h0).1.symm.trans ha.1)
    refine sendKeeps_exchange anyContract o .abort sid 0 0 [] (fun _ _ ys =>
      End.returned e.rc = .returned 0 → Negotiated o f ys ∧ size32 f ≠ 0) xs (fun _ => ⟨trivial, trivial⟩)
      (fun _ => trivial) ?_ fun x y lockRc _ => ?_
    · exact fun hret => absurd (End.returned.inj hret) hno
    · exact fun hret => absurd (End.returned.inj hret) hno

theorem unionDownload_negotiates (image : UnionImage) (partition : Option UnionPartition) (rounds : ℕ) (t : Log)
    (hrun : (unionDownload o f image partition rounds).Runs t (.returned 0)) :
    Negotiated o f (fwExchanges (vendorCalls t)) ∧ size32 f ≠ 0 := by
  exact keeps_any _ _ t _ ((sizeProof o f image partition).keeps_unionDownload rounds) hrun rfl

end Proof

/-! ### A download of one byte -/

section Run
variable (o : ByteOrder) (f : File)

/-- The events of one action, with the unlock and the lock answered with success. -/
def sentWith (r : VuRequest) (rsp : FwdownloadOutput) : Log :=
  [⟨.vendor (.vu vuunlock) 0, (⟨0, []⟩ : VendorReply)⟩, ⟨.vendor (.vu r) 44, (⟨0, rsp.encode o⟩ : VendorReply)⟩,
    ⟨.vendor (.vu vulock) 0, (⟨0, []⟩ : VendorReply)⟩]

theorem runs_fwdownloadSend (a : FwAction) (sp off seq : U 32) (pl : Bytes) (rsp : FwdownloadOutput)
    (hlen : pl.length ≤ 2016) :
    (fwdownloadSend o a sp off seq pl).Runs (sentWith o (fwdownloadRequest a sp off seq pl) rsp)
      (sendResult a sp 0 0 rsp, rsp) := by
  rw [fwdownloadSend, if_neg (Nat.not_lt.mpr hlen)]
  have hrsp : responseOf o ⟨0, rsp.encode o⟩ = rsp := responseOf_encode o rsp
  refine ⟨_, _, rfl, _, _, rfl, _, _, rfl, rfl, ?_⟩
  change _ = (sendResult a sp 0 0 (responseOf o ⟨0, rsp.encode o⟩), responseOf o ⟨0, rsp.encode o⟩)
  rw [hrsp]

/-- The device asks for one byte. -/
def asksByte : FwdownloadOutput := ⟨1, 7, 1, 0, 0, 0, 0, 1, 0, size32 f, 0⟩

def isDone : FwdownloadOutput := ⟨1, 7, 5, 0, 1, 0, 0, 0, 0, size32 f, 0⟩

theorem runs_beginRound (image : UnionImage) (partition : Option UnionPartition) (start : U 64) :
    (beginRound o f image partition start).Runs
      (sentWith o (fwdownloadRequest (beginAction image) (beginPartition image partition) (size32 f) 2016 [])
        (asksByte f))
      (.inr (.inl (asksByte f))) := by
  have hbegin := beginAction_isBegin image
  have hok : sendResult (beginAction image) (beginPartition image partition) 0 0 (asksByte f) = 0 := by
    refine (sendResult_eq_zero _ _ _ _ _).mpr ⟨rfl, rfl, rfl, fun h => ?_, rfl⟩
    rw [hbegin] at h
    exact absurd h.symm Bool.false_ne_true
  refine (runs_bind _ _ _ _).mpr ⟨_, [], _, (List.append_nil _).symm,
    runs_fwdownloadSend o _ _ _ _ [] (asksByte f) (Nat.zero_le _), ?_⟩
  dsimp only
  rw [if_pos hok]
  exact ⟨rfl, rfl⟩

theorem progress_ok (rsp : FwdownloadOutput) (htotal : rsp.totalBytes = size32 f) (hreceived : rsp.receivedBytes = 0) :
    ¬(rsp.totalBytes ≠ size32 f ∨ rsp.totalBytes < rsp.receivedBytes) := by
  rintro (h | h)
  · exact h htotal
  · rw [hreceived] at h
    exact absurd h (Nat.not_lt_zero _)

theorem runs_dataRound (hsize : size32 f ≠ 0) (hfile : 1 ≤ f.size) :
    (unionRound o f 7 ⟨asksByte f, uint32Max, 0, none⟩).Runs
      ([⟨.fseekSet 0, true⟩, ⟨.fread 0 1, true⟩] ++ sentWith o (fwdownloadRequest .data 7 0 1 (f.read 0 1)) (isDone f))
      (.inl ⟨isDone f, uint32Max, 0, some (0, 0, 1)⟩) := by
  have hrange : rangeOk f 0 1 = true := by
    have hpos : (size32 f).val ≠ 0 := fun h => hsize (Fin.ext h)
    refine (rangeOk_iff f 0 1).mpr ⟨by decide, by decide, ?_⟩
    change 0 + 1 ≤ (size32 f).val
    omega
  have hread : (true && decide (0 + 1 ≤ f.size)) = true := by
    rw [Bool.true_and, decide_eq_true_eq]
    omega
  rw [unionRound, if_neg (progress_ok f (asksByte f) rfl rfl)]
  change (sendData o f 7 ⟨asksByte f, uint32Max, 0, none⟩).Runs _ _
  rw [sendData]
  dsimp only
  rw [if_neg (Option.some_ne_none _).symm, if_neg (fun h => Bool.false_ne_true (h.symm.trans hrange))]
  refine ⟨_, _, rfl, _, _, rfl, ?_⟩
  change (if (true && decide (0 + 1 ≤ f.size)) = true then _ else _ : Tool _).Runs _ _
  rw [if_pos hread]
  refine (runs_bind _ _ _ _).mpr ⟨_, [], _, (List.append_nil _).symm,
    runs_fwdownloadSend o .data 7 0 1 (f.read 0 1) (isDone f) (by rw [File.read_length]; decide), ?_⟩
  exact ⟨rfl, rfl⟩

theorem runs_doneRound (range : Option (U 32 × U 32 × U 32)) :
    (unionRound o f 7 ⟨isDone f, uint32Max, 0, range⟩).Runs [] (.inr ⟨0, false, 5⟩) := by
  rw [unionRound, if_neg (progress_ok f (isDone f) rfl rfl)]
  exact ⟨rfl, rfl⟩

def beginRequest (image : UnionImage) (partition : Option UnionPartition) : VuRequest :=
  fwdownloadRequest (beginAction image) (beginPartition image partition) (size32 f) 2016 []

def dataLog : Log :=
  [⟨.fseekSet 0, true⟩, ⟨.fread 0 1, true⟩] ++ sentWith o (fwdownloadRequest .data 7 0 1 (f.read 0 1)) (isDone f)

/-- BEGIN, one byte of data, and the device is done. -/
def oneByteLog (image : UnionImage) (partition : Option UnionPartition) : Log :=
  [⟨.fseekEnd, true⟩, ⟨.ftell, true⟩, ⟨.fseekSet 0, true⟩, ⟨.clockGettime, some 0⟩] ++
    (sentWith o (beginRequest f image partition) (asksByte f) ++ dataLog o f)

theorem runs_oneByteSession (hsize : size32 f ≠ 0) (hfile : 1 ≤ f.size) :
    (unionSession o f 2 (asksByte f)).Runs (dataLog o f) (.returned 0) := by
  have hrounds := runs_iterate_next (unionRound o f 7) 1 _ _ _ _ _ (runs_dataRound o f hsize hfile)
    (runs_iterate_last (unionRound o f 7) 0 _ _ _ (runs_doneRound o f _))
  rw [List.append_nil] at hrounds
  have hopen : ¬((asksByte f).sessionId = 0 ∨ fwState (asksByte f).state ≠ .needData ∨
      (asksByte f).totalBytes ≠ size32 f) := by
    rintro (h | h | h)
    · exact absurd h (by decide : (7 : U 32) ≠ 0)
    · exact h rfl
    · exact h rfl
  rw [unionSession, if_neg hopen]
  exact (runs_bind _ _ _ _).mpr ⟨_, [], _, (List.append_nil _).symm, hrounds, rfl, rfl⟩

theorem runs_oneByte (image : UnionImage) (partition : Option UnionPartition) (h116 : 116 ≤ f.size)
    (hsize : size32 f ≠ 0) :
    (unionDownload o f image partition 2).Runs (oneByteLog o f image partition) (.returned 0) := by
  have hbegun := runs_iterate_last (fun _ : Unit => beginRound o f image partition (nowMs 0)) 1 () _ _
    (runs_beginRound o f image partition (nowMs 0))
  refine ⟨true, _, rfl, true, _, rfl, ?_⟩
  change (if f.size < 116 then _ else _ : Tool End).Runs _ _
  rw [if_neg (Nat.not_lt.mpr h116)]
  refine ⟨true, _, rfl, some 0, _, rfl, ?_⟩
  change (iterate (fun _ : Unit => beginRound o f image partition (nowMs 0)) 2 () >>= _ : Tool End).Runs
    (sentWith o (beginRequest f image partition) (asksByte f) ++ dataLog o f) _
  exact (runs_bind _ _ _ _).mpr ⟨_, _, _, rfl, hbegun, runs_oneByteSession o f hsize (by omega)⟩

theorem beginOf_oneByteLog (image : UnionImage) (partition : Option UnionPartition) :
    beginOf (fwExchanges (vendorCalls (oneByteLog o f image partition))) =
      some (beginRequest f image partition, ⟨0, (asksByte f).encode o⟩) := by
  cases image <;> rfl

end Run

theorem whole_image_iff (o : ByteOrder) (disk : Disk) (params : String × UnionImage × Option UnionPartition) (f : File)
    (hf : disk params.1 = some f) (h116 : 116 ≤ f.size) :
    (∀ rounds t, (vuDlunionDownload o disk params rounds).Runs t (.returned 0) →
      WholeImage o f (fwExchanges (vendorCalls t))) ↔ f.size < 2 ^ 32 ∨ 2 ^ 32 ∣ f.size := by
  have hval : (size32 f).val = f.size % 2 ^ 32 := rfl
  simp only [vuDlunionDownload, hf]
  constructor
  · intro h
    by_contra hcond
    rw [not_or, Nat.not_lt] at hcond
    obtain ⟨hge, hdvd⟩ := hcond
    have hsize : size32 f ≠ 0 := fun hzero => hdvd (Nat.dvd_of_mod_eq_zero (hval ▸ congrArg Fin.val hzero))
    obtain ⟨⟨p, hp, hnegotiated, -⟩, -⟩ := h 2 _ (runs_oneByte o f params.2.1 params.2.2 h116 hsize)
    rw [beginOf_oneByteLog] at hp
    rw [← Option.some.inj hp] at hnegotiated
    have hlt : f.size < 2 ^ 32 := hnegotiated ▸ (size32 f).isLt
    omega
  · intro hcond rounds t hrun
    obtain ⟨⟨p, hp, hsent, htotal⟩, hne⟩ := unionDownload_negotiates o f params.2.1 params.2.2 rounds t hrun
    have hlt : f.size < 2 ^ 32 := by
      rcases hcond with hlt | hdvd
      · exact hlt
      · exact absurd (Fin.ext (hval.trans (Nat.mod_eq_zero_of_dvd hdvd))) hne
    have h32 : (size32 f).val = f.size := Nat.mod_eq_of_lt hlt
    refine ⟨⟨p, hp, by rw [hsent, h32], by rw [htotal, h32]⟩, fun i hi => ?_⟩
    have hival : (toU32 i).val = i := Nat.mod_eq_of_lt (by omega)
    refine ⟨toU32 i, 1, (rangeOk_iff f _ _).mpr ⟨by decide, by decide, ?_⟩, by omega, ?_⟩
    · rw [hival, h32]
      exact hi
    · rw [hival]
      exact Nat.lt_succ_self i

theorem smallImage_whole :
    ∃ t, (downloadOf smallImage 5).Runs t (.returned 0) ∧
      WholeImage .little smallImage (fwExchanges (vendorCalls t)) := by
  have hrun := runOf_runs smallImage 5 (scripted .little oneRange) 0 (by decide +kernel)
  exact ⟨_, hrun, (whole_image_iff .little (fun _ => some smallImage) ("union.bin", .union, none) smallImage rfl
    (by decide)).mpr (Or.inl (by decide)) 5 _ hrun⟩

/-- 4 GiB more than `smallImage`. -/
def bigImage : File := ⟨2 ^ 32 + 116, fun _ => 0xA5, by decide⟩

/-- 116 bytes are asked for, sent and reported as the whole image. -/
theorem bigImage_cut_short :
    ∃ t, (downloadOf bigImage 5).Runs t (.returned 0) ∧ ¬WholeImage .little bigImage (fwExchanges (vendorCalls t)) := by
  refine ⟨_, runOf_runs bigImage 5 (scripted .little oneRange) 0 (by decide +kernel), ?_⟩
  rintro ⟨⟨p, hp, hsize, -⟩, -⟩
  have hbegin : (beginOf (fwExchanges (vendorCalls (runOf bigImage 5 (scripted .little oneRange)).1))).map
      (fun p => p.1.arg3.val) = some 116 := by decide +kernel
  rw [hp] at hbegin
  exact absurd (hsize.symm.trans (Option.some.inj hbegin)) (by decide)

end LibCxlmi.Tools
