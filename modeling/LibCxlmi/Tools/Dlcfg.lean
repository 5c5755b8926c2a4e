import LibCxlmi.Tools.SendFile

/-!
# Configuration download (cmd_vu_dlcfg.c)

`vu_dlcfg_file` sends a configuration file in chunks, each padded to a multiple
of four bytes. `DlcfgDelivers` is what it is for. It keeps to it for files below
4 GiB unless a read fails after a chunk was taken, or the padded chunk and its
header do not fit the 32 bits of `in_sz`.
-/

namespace LibCxlmi.Tools
open LibCxlmi.Word LibCxlmi.Dialogue

def dlcfgActionCode : ChunkAction → U 32
  | .full => 0x0
  | .init => 0x1
  | .cont => 0x2
  | .last => 0x3

def dlcfgPickAction (chunkIdx numChunks : ℕ) : U 32 := dlcfgActionCode (pickAction chunkIdx numChunks)

def dlcfgPadLen (dataSz : ℕ) : ℕ := (dataSz + 3) / 4 * 4

/- The request buffer has been zeroed behind the data. -/
def dlcfgRequest (cfgType : U 32) (c : Chunk) : VuRequest :=
  ⟨0x07, 0, toU32 (32 + dlcfgPadLen c.data.length), 0, dlcfgPickAction c.chunkIdx c.numChunks, cfgType, c.byteOffset,
    0, fillBuf (dlcfgPadLen c.data.length) c.data⟩

def dlcfgSender (cfgType : U 32) (send : VuRequest → Tool ℤ) : ChunkSender :=
  ⟨32, fun rc => rc == 0, fun c => send (dlcfgRequest cfgType c)⟩

def vuDlcfgFile (disk : Disk) (params : String × U 32 × U 32) (send : VuRequest → Tool ℤ) : Tool End :=
  sendFile (dlcfgSender params.2.1 send) disk params.1 params.2.2

def vuDlcfgSendDirect (o : ByteOrder) (r : VuRequest) : Tool ℤ := Via.direct.send o r
def sdbVuDlcfgSend (o : ByteOrder) (port : Byte) (r : VuRequest) : Tool ℤ := (Via.sdb port).send o r

def cmdVuDlcfg (o : ByteOrder) (disk : Disk) (args : List String) : Tool End :=
  match parseVuDlcfgReq args with
  | none => return .returned (-1)
  | some params => vuWindow o .direct (vuDlcfgFile disk params (vuDlcfgSendDirect o))

def sdbTunnelVuDlcfg (o : ByteOrder) (disk : Disk) (args : List String) : Tool End :=
  match (sdbArgs args).bind fun a => (parseVuDlcfgReq a.2).map fun params => (a.1, params) with
  | none => return .returned (-1)
  | some (port, params) => vuWindow o (.sdb port) (vuDlcfgFile disk params (sdbVuDlcfgSend o port))

/-! ### What a download is for -/

def pickVu : SysCall × ℤ → Option (VuRequest × ℤ)
  | (.vendor (.vu r) _, x) => some (r, x)
  | _ => none

/-- The VU requests sent to the mailbox, with their results. -/
def vuCommands (t : Log) : List (VuRequest × ℤ) := (deviceCalls t).filterMap pickVu

def payloadSent (cs : List (VuRequest × ℤ)) : ℕ := (cs.map fun c => c.1.payload.length).sum

structure DlcfgDelivers (f : File) (chunkSize : ℕ) (cs : List (VuRequest × ℤ)) (e : End) : Prop where
  commands : ∀ c ∈ cs, c.1.vuCmdId = 0x07
  actions : ∃ as, cs.map (fun c => c.1.arg1) = as.map dlcfgActionCode ∧ InSequence as
  /-- Only the end of the file is padded, and nothing is sent after it. -/
  placed : ∀ i c, cs[i]? = some c → ∃ n pad, c.1.arg3.val = payloadSent (cs.take i) ∧
    c.1.payload = f.read c.1.arg3.val n ++ zeros pad ∧ c.1.arg3.val + n ≤ f.size ∧ pad < 4 ∧ 4 ∣ n + pad ∧
    (pad ≠ 0 → i + 1 = cs.length ∧ c.1.arg3.val + n = f.size)
  sized : ∀ c ∈ cs, c.1.inSz.val = 32 + c.1.payload.length ∧ c.1.inSz.val ≤ 32 + chunkSize
  defined : e ≠ .undefined
  returns : e = .returned 0 →
    (∃ pad < 4, cs.flatMap (fun c => c.1.payload) = f.read 0 f.size ++ zeros pad) ∧ ∀ c ∈ cs, c.2 = 0

theorem dlcfgDelivers_nothing (f : File) (chunkSize : ℕ) : DlcfgDelivers f chunkSize [] (.returned (-1)) where
  commands := List.forall_mem_nil _
  actions := ⟨[], rfl, Or.inr ⟨0, List.nil_prefix⟩⟩
  placed := fun _ _ h => nomatch h
  sized := List.forall_mem_nil _
  defined := nofun
  returns := fun h => absurd h (by decide)

theorem dlcfg_asks (o : ByteOrder) (os : (q : SysCall) → q.Answer) (cfgType : U 32) :
    (dlcfgSender cfgType (vuDlcfgSendDirect o)).Asks os fun c => .vendor (.vu (dlcfgRequest cfgType c)) 0 := by
  intro c l x
  constructor
  · rintro ⟨t, ⟨y, t', rfl, rfl, rfl⟩, -, rfl⟩
    rfl
  · rintro rfl
    refine ⟨[⟨.vendor (.vu (dlcfgRequest cfgType c)) 0, ⟨x, []⟩⟩], ⟨⟨x, []⟩, [], rfl, rfl, rfl⟩, ?_, rfl⟩
    intro e he hlocal
    rw [List.mem_singleton.mp he] at hlocal
    cases hlocal

theorem dlcfgPadLen_spec (n : ℕ) : n ≤ dlcfgPadLen n ∧ dlcfgPadLen n < n + 4 ∧ 4 ∣ dlcfgPadLen n := by
  unfold dlcfgPadLen
  omega

theorem dlcfgPadLen_of_dvd (n : ℕ) (h : 4 ∣ n) : dlcfgPadLen n = n := by
  unfold dlcfgPadLen
  omega

theorem dlcfgPadLen_mono (a b : ℕ) (h : a ≤ b) : dlcfgPadLen a ≤ dlcfgPadLen b := by
  unfold dlcfgPadLen
  omega

section Requests
variable (f : File) (cfgType : U 32) (c n : ℕ)

def downloads (xs : List ℤ) : List (VuRequest × ℤ) :=
  xs.mapIdx fun j x => (dlcfgRequest cfgType (chunkAt f c n j), x)

def paddedLen (i : ℕ) : ℕ := dlcfgPadLen (chunkLen f c i)

theorem dlcfgRequest_payload (i : ℕ) : (dlcfgRequest cfgType (chunkAt f c n i)).payload =
    f.read (i * c) (chunkLen f c i) ++ zeros (paddedLen f c i - chunkLen f c i) := by
  rw [dlcfgRequest, chunkAt, fillBuf, File.read_length, paddedLen]

theorem dlcfgRequest_payload_length (i : ℕ) :
    (dlcfgRequest cfgType (chunkAt f c n i)).payload.length = paddedLen f c i := by
  have h := (dlcfgPadLen_spec (chunkLen f c i)).1
  rw [dlcfgRequest_payload, List.length_append, File.read_length, zeros_length, paddedLen]
  omega

theorem downloads_get (xs : List ℤ) (i : ℕ) (cmd : VuRequest × ℤ) (h : (downloads f cfgType c n xs)[i]? = some cmd) :
    ∃ x, xs[i]? = some x ∧ cmd = (dlcfgRequest cfgType (chunkAt f c n i), x) := by
  rw [downloads, List.getElem?_mapIdx] at h
  obtain ⟨x, hx, rfl⟩ := Option.map_eq_some_iff.mp h
  exact ⟨x, hx, rfl⟩

theorem downloads_mem (xs : List ℤ) (cmd : VuRequest × ℤ) (h : cmd ∈ downloads f cfgType c n xs) :
    ∃ i < xs.length, ∃ x ∈ xs, cmd = (dlcfgRequest cfgType (chunkAt f c n i), x) := by
  obtain ⟨i, hi⟩ := List.mem_iff_getElem?.mp h
  obtain ⟨x, hx, rfl⟩ := downloads_get f cfgType c n xs i cmd hi
  exact ⟨i, (List.getElem?_eq_some_iff.mp hx).1, x, List.mem_of_getElem? hx, rfl⟩

theorem payloadSent_take (xs : List ℤ) (i : ℕ) (hi : i ≤ xs.length) :
    payloadSent ((downloads f cfgType c n xs).take i) = ((List.range i).map (paddedLen f c)).sum := by
  have hlens : (downloads f cfgType c n xs).map (fun cmd => cmd.1.payload.length) =
      (List.range xs.length).map (paddedLen f c) := by
    refine map_mapIdx_index _ _ _ (fun j x => ?_) xs
    exact dlcfgRequest_payload_length f cfgType c n j
  rw [payloadSent, List.map_take, hlens, ← List.map_take, List.take_range, Nat.min_eq_left hi]

theorem downloads_actions (xs : List ℤ) :
    (downloads f cfgType c n xs).map (fun cmd => cmd.1.arg1) =
      ((List.range xs.length).map (pickAction · n)).map dlcfgActionCode := by
  rw [List.map_map]
  refine map_mapIdx_index _ _ _ (fun j x => ?_) xs
  rfl

theorem downloads_payload (xs : List ℤ) : (downloads f cfgType c n xs).flatMap (fun cmd => cmd.1.payload) =
    (List.range xs.length).flatMap fun i => f.read (i * c) (chunkLen f c i) ++
      zeros (paddedLen f c i - chunkLen f c i) := by
  rw [List.flatMap_def, List.flatMap_def]
  congr 1
  refine map_mapIdx_index _ _ _ (fun j x => ?_) xs
  exact dlcfgRequest_payload f cfgType c n j

end Requests

section Delivery
variable (os : (q : SysCall) → q.Answer) (f : File) (cfgType : U 32) (c : ℕ) (hs : f.size ≠ 0)
  (hsize : f.size < 2 ^ 32) (hc : c ≠ 0) (hdvd : 4 ∣ c)

include hs hc hdvd in
theorem paddedLen_before_last (i : ℕ) (hi : i + 1 < chunkCount f.size c) : paddedLen f c i = c := by
  rw [paddedLen, chunkLen_before_last f c i hs hc hi, dlcfgPadLen_of_dvd c hdvd]

include hs hc hdvd in
theorem paddedLen_sum (i : ℕ) (hi : i < chunkCount f.size c) : ((List.range i).map (paddedLen f c)).sum = i * c := by
  induction i with
  | zero => simp only [List.range_zero, List.map_nil, List.sum_nil, Nat.zero_mul]
  | succ i ih =>
    rw [List.range_succ, List.map_append, List.sum_append, ih (by omega), List.map_singleton, List.sum_singleton,
      paddedLen_before_last f c hs hc hdvd i hi, Nat.succ_mul]

include hs hc hdvd in
theorem payload_before_last (i : ℕ) (hi : i < chunkCount f.size c) :
    ((List.range i).flatMap fun j => f.read (j * c) (chunkLen f c j) ++ zeros (paddedLen f c j - chunkLen f c j)) =
      f.read 0 (i * c) := by
  induction i with
  | zero =>
    rw [Nat.zero_mul]
    rfl
  | succ i ih =>
    rw [List.range_succ, List.flatMap_append, ih (by omega), List.flatMap_singleton,
      paddedLen_before_last f c hs hc hdvd i hi, chunkLen_before_last f c i hs hc hi, Nat.sub_self, Nat.succ_mul,
      File.read_add, Nat.zero_add]
    exact congrArg (f.read 0 (i * c) ++ ·) (List.append_nil _)

include hs hsize hc in
theorem chunkLen_small (i : ℕ) (hi : i < chunkCount f.size c) :
    i * c < f.size ∧ (chunkOffset c i).val = i * c ∧ chunkLen f c i = min (f.size - i * c) c := by
  have hlt := chunk_start_lt f.size c i hs hc hi
  exact ⟨hlt, chunkOffset_of_lt c i (by omega), chunkLen_of_lt f c i (by omega)⟩

include hs hsize hc hdvd in
theorem payload_all : ∃ pad < 4, ((List.range (chunkCount f.size c)).flatMap fun j =>
    f.read (j * c) (chunkLen f c j) ++ zeros (paddedLen f c j - chunkLen f c j)) = f.read 0 f.size ++ zeros pad := by
  have hpos := chunkCount_pos f.size c hs hc
  obtain ⟨m, hm⟩ : ∃ m, chunkCount f.size c = m + 1 := ⟨chunkCount f.size c - 1, by omega⟩
  have hcover := (chunkCount_spec f.size c hs hc).2
  obtain ⟨hlt, -, hlen⟩ := chunkLen_small f c hs hsize hc m (by omega)
  have hpad := dlcfgPadLen_spec (chunkLen f c m)
  have hend : f.size = m * c + chunkLen f c m := by
    rw [hm, Nat.succ_mul] at hcover
    omega
  refine ⟨paddedLen f c m - chunkLen f c m, by rw [paddedLen]; omega, ?_⟩
  rw [hm, List.range_succ, List.flatMap_append, payload_before_last f c hs hc hdvd m (by omega),
    List.flatMap_singleton, ← List.append_assoc]
  congr 1
  conv_rhs => rw [hend, File.read_add, Nat.zero_add]

include hs hsize hc hdvd in
/-- A chunk goes where the chunks before it end, and is padded only at the end of the file. -/
theorem downloads_placed (xs : List ℤ) (hm : xs.length ≤ chunkCount f.size c) (i : ℕ) (hi : i < xs.length)
    (req : VuRequest) (hreq : req = dlcfgRequest cfgType (chunkAt f c (chunkCount f.size c) i)) :
    ∃ n pad, req.arg3.val = payloadSent ((downloads f cfgType c (chunkCount f.size c) xs).take i) ∧
      req.payload = f.read req.arg3.val n ++ zeros pad ∧ req.arg3.val + n ≤ f.size ∧ pad < 4 ∧ 4 ∣ n + pad ∧
      (pad ≠ 0 → i + 1 = chunkCount f.size c ∧ req.arg3.val + n = f.size) := by
  obtain ⟨hlt, hoff, hlen⟩ := chunkLen_small f c hs hsize hc i (by omega)
  have hpad := dlcfgPadLen_spec (chunkLen f c i)
  have harg : req.arg3.val = i * c := hreq ▸ hoff
  refine ⟨chunkLen f c i, paddedLen f c i - chunkLen f c i, ?_, ?_, ?_, ?_, ?_, ?_⟩
  · rw [payloadSent_take f cfgType c _ xs i (by omega), paddedLen_sum f c hs hc hdvd i (by omega)]
    exact harg
  · rw [harg, hreq, dlcfgRequest_payload]
  · rw [harg]
    omega
  · rw [paddedLen]
    omega
  · rw [paddedLen]
    obtain ⟨d, hd⟩ := hpad.2.2
    exact ⟨d, by omega⟩
  · intro hne
    -- a chunk that is padded is the last one of the file
    have hlast : i + 1 = chunkCount f.size c := by
      by_contra hnot
      rw [paddedLen_before_last f c hs hc hdvd i (by omega), chunkLen_before_last f c i hs hc (by omega)] at hne
      exact hne (Nat.sub_self c)
    have hcover := (chunkCount_spec f.size c hs hc).2
    rw [← hlast, Nat.succ_mul] at hcover
    rw [harg]
    exact ⟨hlast, by omega⟩

include hs hsize hc hdvd in
theorem dlcfgRequest_sized (hfits : 32 + dlcfgPadLen (min f.size c) < 2 ^ 32) (i : ℕ) (hi : i < chunkCount f.size c)
    (req : VuRequest) (hreq : req = dlcfgRequest cfgType (chunkAt f c (chunkCount f.size c) i)) :
    req.inSz.val = 32 + req.payload.length ∧ req.inSz.val ≤ 32 + c := by
  subst hreq
  obtain ⟨hlt, -, hlen⟩ := chunkLen_small f c hs hsize hc i hi
  have hsz : (dlcfgRequest cfgType (chunkAt f c (chunkCount f.size c) i)).inSz.val =
      (32 + dlcfgPadLen (chunkLen f c i)) % 2 ^ 32 := by
    change (32 + dlcfgPadLen (f.read _ _).length) % 2 ^ 32 = _
    rw [File.read_length]
  have hfirst : dlcfgPadLen (chunkLen f c i) ≤ dlcfgPadLen (min f.size c) := dlcfgPadLen_mono _ _ (by omega)
  have hchunk : dlcfgPadLen (chunkLen f c i) ≤ dlcfgPadLen c := dlcfgPadLen_mono _ _ (chunkLen_le f c i)
  rw [dlcfgPadLen_of_dvd c hdvd] at hchunk
  rw [hsz, dlcfgRequest_payload_length, paddedLen, Nat.mod_eq_of_lt (by omega)]
  exact ⟨rfl, by omega⟩

include hs hsize hc hdvd in
theorem dlcfgDelivers_of_chunkRun (hfits : 32 + dlcfgPadLen (min f.size c) < 2 ^ 32)
    (hread : ∀ i, 0 < i → i < chunkCount f.size c → chunkReadable os f c i = true) (xs : List ℤ) (r : ℤ)
    (hrun : ChunkRun (fun rc => rc == 0) (chunkReadable os f c) (chunkCount f.size c) 0 (-1) xs r) :
    DlcfgDelivers f c (downloads f cfgType c (chunkCount f.size c) xs) (.returned r) := by
  have hm : xs.length ≤ chunkCount f.size c := hrun.length_le
  refine ⟨?_, ?_, ?_, ?_, nofun, ?_⟩
  · intro cmd hcmd
    obtain ⟨i, -, x, -, rfl⟩ := downloads_mem f cfgType c _ xs cmd hcmd
    rfl
  · exact ⟨_, downloads_actions f cfgType c _ xs, pickAction_inSequence xs.length _ hm⟩
  · intro i cmd hcmd
    obtain ⟨x, hx, rfl⟩ := downloads_get f cfgType c _ xs i cmd hcmd
    have hi : i < xs.length := (List.getElem?_eq_some_iff.mp hx).1
    obtain ⟨n, pad, hplace, hpayload, hle, hpad, hdiv, hlast⟩ :=
      downloads_placed f cfgType c hs hsize hc hdvd xs hm i hi _ rfl
    refine ⟨n, pad, hplace, hpayload, hle, hpad, hdiv, fun hne => ?_⟩
    obtain ⟨hcount, hend⟩ := hlast hne
    rw [downloads, List.length_mapIdx]
    exact ⟨by omega, hend⟩
  · intro cmd hcmd
    obtain ⟨i, hi, x, -, rfl⟩ := downloads_mem f cfgType c _ xs cmd hcmd
    exact dlcfgRequest_sized f cfgType c hs hsize hc hdvd hfits i (by omega) _ rfl
  · intro hzero
    obtain rfl : r = 0 := End.returned.inj hzero
    rw [downloads_payload]
    rcases hrun.ends_readable hread with ⟨hall, hn, -⟩ | ⟨-, hr⟩ | ⟨-, hno⟩
    · obtain hlen : xs.length = chunkCount f.size c := by omega
      rw [hlen]
      refine ⟨payload_all f c hs hsize hc hdvd, fun cmd hcmd => ?_⟩
      obtain ⟨i, -, x, hx, rfl⟩ := downloads_mem f cfgType c _ xs cmd hcmd
      exact beq_iff_eq.mp (hall x hx)
    · exact absurd hr (by decide)
    · exact absurd hno (by decide)

include hs hc hdvd in
/-- What delivery asks of a run against a device that takes everything. -/
theorem chunkRun_of_dlcfgDelivers (m : ℕ)
    (hrun : ChunkRun (fun rc => rc == 0) (chunkReadable os f c) (chunkCount f.size c) 0 (-1) (List.replicate m 0) 0)
    (hd : DlcfgDelivers f c (downloads f cfgType c (chunkCount f.size c) (List.replicate m 0)) (.returned 0)) :
    32 + paddedLen f c 0 < 2 ^ 32 ∧ ∀ i < chunkCount f.size c, chunkReadable os f c i = true := by
  have hpos := chunkCount_pos f.size c hs hc
  have hm : m ≤ chunkCount f.size c := List.length_replicate (n := m) (a := (0 : ℤ)) ▸ hrun.length_le
  have hall : m = chunkCount f.size c := by
    by_contra hne
    obtain ⟨⟨pad, -, hpay⟩, -⟩ := hd.returns rfl
    rw [downloads_payload, List.length_replicate, payload_before_last f c hs hc hdvd m (by omega)] at hpay
    have hlen := congrArg List.length hpay
    rw [File.read_length, List.length_append, File.read_length, zeros_length] at hlen
    have hmul : m * c ≤ (chunkCount f.size c - 1) * c := Nat.mul_le_mul_right c (by omega)
    have hstart := (chunkCount_spec f.size c hs hc).1
    omega
  subst hall
  refine ⟨?_, fun i hi => ?_⟩
  · have hget : (downloads f cfgType c (chunkCount f.size c) (List.replicate (chunkCount f.size c) 0))[0]? =
        some (dlcfgRequest cfgType (chunkAt f c (chunkCount f.size c) 0), 0) := by
      rw [downloads, List.getElem?_mapIdx, List.getElem?_replicate, if_pos hpos]
      rfl
    have hsz := (hd.sized _ (List.mem_of_getElem? hget)).1
    dsimp only at hsz
    rw [dlcfgRequest_payload_length] at hsz
    rw [← hsz]
    exact Fin.isLt _
  · have hread := (hrun.readable_of_lt i (by rw [List.length_replicate]; exact hi)).2
    rwa [Nat.zero_add] at hread

end Delivery

/-! ### When a download delivers -/

/-- Once the file is open and its buffer allocated: if the first chunk can be
read, then so can all others, and it fits `in_sz` with its padding and header. -/
def Downloadable (os : (q : SysCall) → q.Answer) (f : File) (chunkSize : U 32) : Prop :=
  Opened os f → os (.calloc (32 + chunkSize.val)) = true → reads os 0 (min f.size chunkSize.val) = true →
    32 + dlcfgPadLen (min f.size chunkSize.val) < 2 ^ 32 ∧
    ∀ i, 0 < i → i < chunkCount f.size chunkSize.val →
      reads os (i * chunkSize.val) (min (f.size - i * chunkSize.val) chunkSize.val) = true

section Downloadable
variable (o : ByteOrder) (os : (q : SysCall) → q.Answer) (f : File) (cfgType chunkSize : U 32)

/-- A run of `vu_dlcfg_file` with these commands. -/
def DlcfgRun (l : List (SysCall × ℤ)) (e : End) : Prop :=
  FileRun os (dlcfgSender cfgType (vuDlcfgSendDirect o)) (fun c => .vendor (.vu (dlcfgRequest cfgType c)) 0) f
    chunkSize l e

theorem pickVu_chunkCalls (n : ℕ) (xs : List ℤ) :
    (chunkCalls (fun c => .vendor (.vu (dlcfgRequest cfgType c)) 0) f chunkSize.val n 0 xs).filterMap pickVu =
      downloads f cfgType chunkSize.val n xs := by
  rw [filterMap_chunkCalls _ f chunkSize.val n pickVu (fun c x => (dlcfgRequest cfgType c, x)) fun _ _ => rfl]
  simp only [Nat.zero_add, downloads]

variable (hsize : f.size < 2 ^ 32) (hc : chunkSize ≠ 0) (hdvd : 4 ∣ chunkSize.val)

include hsize hc in
theorem chunk_defined : ¬(chunkSize = 0 ∨ 2 ^ 63 ≤ f.size + chunkSize.val) := by
  have h := chunkSize.isLt
  exact not_or.mpr ⟨hc, by omega⟩

include hsize in
/- Below 4 GiB all offsets are exact. -/
theorem small_file (hs : f.size ≠ 0) (hval : chunkSize.val ≠ 0) :
    (chunkCount f.size chunkSize.val - 1) * chunkSize.val < 2 ^ 32 ∧
      u32 (chunkCount f.size chunkSize.val) = chunkCount f.size chunkSize.val := by
  have hlast := (chunkCount_spec f.size chunkSize.val hs hval).1
  have hmul : (chunkCount f.size chunkSize.val - 1) * 1 ≤ (chunkCount f.size chunkSize.val - 1) * chunkSize.val :=
    Nat.mul_le_mul_left _ (by omega)
  exact ⟨by omega, u32_of_lt _ (by omega)⟩

include hsize hc hdvd in
theorem downloadable_of_delivers
    (hall : ∀ l e, DlcfgRun o os f cfgType chunkSize l e → DlcfgDelivers f chunkSize.val (l.filterMap pickVu) e) :
    Downloadable os f chunkSize := by
  intro hopen ha hread
  have hval : chunkSize.val ≠ 0 := fun h => hc (Fin.ext h)
  obtain ⟨hlow, hcount⟩ := small_file f chunkSize hsize hopen.2.2.1 hval
  have hfirst := (chunkReadable_zero os f chunkSize.val).trans hread
  -- the run against the device that takes everything
  obtain ⟨m, hm⟩ := ChunkRun.exists_zeros (fun rc => rc == 0) (chunkReadable os f chunkSize.val) _ rfl
    (u32 (chunkCount f.size chunkSize.val)) 0 (-1) (Nat.zero_add _) (Or.inr (Or.inr hfirst))
  have hd := hall _ _ (.sent hopen (chunk_defined f chunkSize hsize hc) ha (List.replicate m 0) 0 hm)
  rw [pickVu_chunkCalls, hcount] at hd
  rw [hcount] at hm
  obtain ⟨hfits, hreads⟩ := chunkRun_of_dlcfgDelivers os f cfgType chunkSize.val hopen.2.2.1 hval hdvd m hm hd
  refine ⟨?_, fun i _ hi => ?_⟩
  · rwa [paddedLen, chunkLen_of_lt f chunkSize.val 0 (by omega), Nat.zero_mul, Nat.sub_zero] at hfits
  · rw [← chunkReadable_before os f chunkSize.val hopen.2.2.1 hval hlow i hi]
    exact hreads i hi

include hsize hc hdvd in
theorem delivers_of_downloadable (hcond : Downloadable os f chunkSize) (l : List (SysCall × ℤ)) (e : End)
    (hrun : DlcfgRun o os f cfgType chunkSize l e) : DlcfgDelivers f chunkSize.val (l.filterMap pickVu) e := by
  cases hrun with
  | unopened h => exact dlcfgDelivers_nothing f _
  | undefined hopen h => exact absurd h (chunk_defined f chunkSize hsize hc)
  | noMemory hopen h ha => exact dlcfgDelivers_nothing f _
  | sent hopen h ha xs rc hxs =>
    have hval : chunkSize.val ≠ 0 := fun h => hc (Fin.ext h)
    obtain ⟨hlow, hcount⟩ := small_file f chunkSize hsize hopen.2.2.1 hval
    rw [pickVu_chunkCalls, hcount]
    rw [hcount] at hxs
    cases hread : chunkReadable os f chunkSize.val 0 with
    | false =>
      rw [chunkRun_iff _ _ _ _ _ _ _ (chunkCount_pos f.size chunkSize.val hopen.2.2.1 hval), hread] at hxs
      obtain ⟨rfl, rfl⟩ := hxs
      exact dlcfgDelivers_nothing f _
    | true =>
      obtain ⟨hfits, hlater⟩ := hcond hopen ha ((chunkReadable_zero os f chunkSize.val).symm.trans hread)
      refine dlcfgDelivers_of_chunkRun os f cfgType chunkSize.val hopen.2.2.1 hsize hval hdvd hfits
        (fun i h0 hi => ?_) xs rc hxs
      rw [chunkReadable_before os f chunkSize.val hopen.2.2.1 hval hlow i hi]
      exact hlater i h0 hi

end Downloadable

theorem dlcfg_delivers_iff (o : ByteOrder) (disk : Disk) (params : String × U 32 × U 32) (f : File)
    (hf : disk params.1 = some f) (hsize : f.size < 2 ^ 32) (hc : params.2.2 ≠ 0) (hdvd : 4 ∣ params.2.2.val)
    (os : (q : SysCall) → q.Answer) :
    (∀ t e, (vuDlcfgFile disk params (vuDlcfgSendDirect o)).Runs t e → Follows os t →
      DlcfgDelivers f params.2.2.val (vuCommands t) e) ↔ Downloadable os f params.2.2 := by
  have hruns := forall_runs_sendFile os _ _ f (dlcfg_asks o os params.2.1) disk params.1 hf params.2.2
    fun l e => DlcfgDelivers f params.2.2.val (l.filterMap pickVu) e
  exact hruns.trans ⟨downloadable_of_delivers o os f params.2.1 params.2.2 hsize hc hdvd,
    delivers_of_downloadable o os f params.2.1 params.2.2 hsize hc hdvd⟩

/-- A configuration of ten bytes. -/
def smallConfig : File := ⟨10, fun _ => 0, by decide⟩

theorem smallConfig_delivers :
    ∃ t, (vuDlcfgFile (fun _ => some smallConfig) ("cfg.bin", 1, 4) (vuDlcfgSendDirect .little)).Runs t (.returned 0) ∧
      Follows willing t ∧ payloadSent (vuCommands t) = 12 ∧
      DlcfgDelivers smallConfig 4 (vuCommands t) (.returned 0) := by
  have hcond : Downloadable willing smallConfig 4 := fun _ _ _ => ⟨by decide, fun i _ _ => rfl⟩
  have hrun := play_runs (fun _ => willing)
    (vuDlcfgFile (fun _ => some smallConfig) ("cfg.bin", 1, 4) (vuDlcfgSendDirect .little)) []
  have hos := follows_oracle willing
    (vuDlcfgFile (fun _ => some smallConfig) ("cfg.bin", 1, 4) (vuDlcfgSendDirect .little))
  exact ⟨_, hrun, hos, by decide +kernel, (dlcfg_delivers_iff .little _ ("cfg.bin", 1, 4) smallConfig rfl (by decide)
    (by decide) (by decide) willing).mpr hcond _ _ hrun hos⟩

/-- The second chunk cannot be read: the result of the first one is returned. -/
theorem unread_config_returns_zero :
    ∃ t, (vuDlcfgFile (fun _ => some smallConfig) ("cfg.bin", 1, 4) (vuDlcfgSendDirect .little)).Runs t (.returned 0) ∧
      Follows (unreadableAt 4) t ∧ payloadSent (vuCommands t) = 4 ∧
      ¬DlcfgDelivers smallConfig 4 (vuCommands t) (.returned 0) := by
  have hrun := play_runs (fun _ => unreadableAt 4)
    (vuDlcfgFile (fun _ => some smallConfig) ("cfg.bin", 1, 4) (vuDlcfgSendDirect .little)) []
  have hos := follows_oracle (unreadableAt 4)
    (vuDlcfgFile (fun _ => some smallConfig) ("cfg.bin", 1, 4) (vuDlcfgSendDirect .little))
  have hcmds : vuCommands ((vuDlcfgFile (fun _ => some smallConfig) ("cfg.bin", 1, 4)
      (vuDlcfgSendDirect .little)).play (fun _ => unreadableAt 4) []).1 =
        [(⟨0x07, 0, 36, 0, 1, 1, 0, 0, [0, 0, 0, 0]⟩, 0)] := by decide +kernel
  refine ⟨_, hrun, hos, by rw [hcmds]; rfl, fun hd => ?_⟩
  obtain ⟨pad, -, hpay⟩ := (hd.returns rfl).1
  rw [hcmds] at hpay
  have hlen := congrArg List.length hpay
  rw [List.length_append, File.read_length] at hlen
  exact absurd hlen (by change 4 ≠ 10 + _; omega)

end LibCxlmi.Tools
