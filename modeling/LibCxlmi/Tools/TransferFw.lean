import LibCxlmi.Tools.SendFile

/-!
# Firmware transfer (cmd_fw.c:79-282)

`transfer_fw_file` sends a firmware image in chunks whose offsets count units of
128 bytes. `Delivers` is what it is for. The transfer keeps to it unless a read
fails after a chunk was taken with a zero, a chunk starts at 4 GiB or beyond, or
the chunk size has no low 32 bits.
-/

namespace LibCxlmi.Tools
open LibCxlmi.Word LibCxlmi.Commands LibCxlmi.Dialogue

def xferActionCode : ChunkAction → Byte
  | .full => 0x0
  | .init => 0x1
  | .cont => 0x2
  | .last => 0x3

def xferPickAction (chunkIdx numChunks : ℕ) : Byte := xferActionCode (pickAction chunkIdx numChunks)

/- Success, or a background operation has been started. -/
def xferFwOk (rc : ℤ) : Bool := rc == 0 || rc == 1

def transferFwReq (slot : Byte) (c : Chunk) : TransferFwReq :=
  ⟨xferPickAction c.chunkIdx c.numChunks, slot, toU32 (c.byteOffset.val / 128), c.data⟩

def transferFwSender (slot : Byte) (send : TransferFwReq → Tool ℤ) : ChunkSender :=
  ⟨128, xferFwOk, fun c => send (transferFwReq slot c)⟩

def transferFwFile (disk : Disk) (params : String × Byte × U 32) (send : TransferFwReq → Tool ℤ) : Tool End :=
  sendFile (transferFwSender params.2.1 send) disk params.1 params.2.2

def xferSendDirect (r : TransferFwReq) : Tool ℤ := transferFw r

def cmdTransferFw (disk : Disk) (args : List String) : Tool End :=
  match parseTransferFwReq args with
  | none => return .returned (-1)
  | some params => transferFwFile disk params xferSendDirect

/-! ### What a transfer is for -/

def pickTransfer : SysCall × ℤ → Option (TransferFwReq × ℤ)
  | (.transferFw r, x) => some (r, x)
  | _ => none

/-- The commands sent, with their results. -/
def transferCommands (t : Log) : List (TransferFwReq × ℤ) := (deviceCalls t).filterMap pickTransfer

def dataSent (cs : List (TransferFwReq × ℤ)) : ℕ := (cs.map fun c => c.1.data.length).sum

/-- A file without a byte is not delivered by sending nothing. -/
structure Delivers (f : File) (cs : List (TransferFwReq × ℤ)) (e : End) : Prop where
  actions : ∃ as, cs.map (fun c => c.1.action) = as.map xferActionCode ∧ InSequence as
  placed : ∀ i c, cs[i]? = some c → c.1.offset.val * 128 = dataSent (cs.take i) ∧
    c.1.data = f.read (dataSent (cs.take i)) c.1.data.length ∧
    dataSent (cs.take i) + c.1.data.length ≤ f.size
  stops : ∀ i c, cs[i]? = some c → i + 1 < cs.length → xferFwOk c.2 = true
  defined : e ≠ .undefined
  returns : e = .returned 0 ↔ cs ≠ [] ∧ dataSent cs = f.size ∧ ∀ c ∈ cs, xferFwOk c.2 = true

theorem delivers_nothing (f : File) : Delivers f [] (.returned (-1)) where
  actions := ⟨[], rfl, Or.inr ⟨0, List.nil_prefix⟩⟩
  placed := fun _ _ h => nomatch h
  stops := fun _ _ h => nomatch h
  defined := nofun
  returns := ⟨fun h => absurd h (by decide), fun h => absurd rfl h.1⟩

theorem transferFw_asks (os : (q : SysCall) → q.Answer) (slot : Byte) :
    (transferFwSender slot xferSendDirect).Asks os fun c => .transferFw (transferFwReq slot c) := by
  intro c l x
  constructor
  · rintro ⟨t, ⟨y, t', rfl, rfl, rfl⟩, -, rfl⟩
    rfl
  · rintro rfl
    refine ⟨[⟨.transferFw (transferFwReq slot c), x⟩], ⟨x, [], rfl, rfl, rfl⟩, ?_, rfl⟩
    intro e he hlocal
    rw [List.mem_singleton.mp he] at hlocal
    cases hlocal

section Requests
variable (f : File) (slot : Byte) (c n : ℕ)

/-- The commands for the results `xs`. -/
def transfers (xs : List ℤ) : List (TransferFwReq × ℤ) :=
  xs.mapIdx fun j x => (transferFwReq slot (chunkAt f c n j), x)

theorem transfers_get (xs : List ℤ) (i : ℕ) (cmd : TransferFwReq × ℤ) (h : (transfers f slot c n xs)[i]? = some cmd) :
    ∃ x, xs[i]? = some x ∧ cmd = (transferFwReq slot (chunkAt f c n i), x) := by
  rw [transfers, List.getElem?_mapIdx] at h
  obtain ⟨x, hx, rfl⟩ := Option.map_eq_some_iff.mp h
  exact ⟨x, hx, rfl⟩

theorem transfers_length (xs : List ℤ) : (transfers f slot c n xs).length = xs.length := List.length_mapIdx

theorem transfers_data (xs : List ℤ) :
    (transfers f slot c n xs).map (fun cmd => cmd.1.data.length) = (List.range xs.length).map (chunkLen f c) := by
  refine map_mapIdx_index _ _ _ (fun j x => ?_) xs
  rw [transferFwReq, chunkAt, File.read_length]

theorem dataSent_take (xs : List ℤ) (i : ℕ) (hi : i ≤ xs.length) :
    dataSent ((transfers f slot c n xs).take i) = ((List.range i).map (chunkLen f c)).sum := by
  rw [dataSent, List.map_take, transfers_data, ← List.map_take, List.take_range, Nat.min_eq_left hi]

theorem dataSent_transfers (xs : List ℤ) :
    dataSent (transfers f slot c n xs) = ((List.range xs.length).map (chunkLen f c)).sum := by
  rw [dataSent, transfers_data]

theorem transfers_actions (xs : List ℤ) :
    (transfers f slot c n xs).map (fun cmd => cmd.1.action) =
      ((List.range xs.length).map (pickAction · n)).map xferActionCode := by
  rw [List.map_map]
  refine map_mapIdx_index _ _ _ (fun j x => ?_) xs
  rfl

theorem transfers_ok (xs : List ℤ) :
    (∀ cmd ∈ transfers f slot c n xs, xferFwOk cmd.2 = true) ↔ ∀ x ∈ xs, xferFwOk x = true := by
  have hres : (transfers f slot c n xs).map Prod.snd = xs := by
    refine map_mapIdx_value _ _ (fun j x => ?_) xs
    rfl
  conv_rhs => rw [← hres, List.forall_mem_map]

end Requests

section Delivery
variable (os : (q : SysCall) → q.Answer) (f : File) (slot : Byte) (c : ℕ) (hs : f.size ≠ 0) (hc : c ≠ 0)

include hs hc in
/-- Below 4 GiB a run of the loop delivers, if only its first read can fail. -/
theorem delivers_of_chunkRun (hdvd : 128 ∣ c) (hlow : (chunkCount f.size c - 1) * c < 2 ^ 32)
    (hread : ∀ i, 0 < i → i < chunkCount f.size c → chunkReadable os f c i = true) (xs : List ℤ) (r : ℤ)
    (hrun : ChunkRun xferFwOk (chunkReadable os f c) (chunkCount f.size c) 0 (-1) xs r) :
    Delivers f (transfers f slot c (chunkCount f.size c) xs) (.returned r) := by
  have hm : xs.length ≤ chunkCount f.size c := hrun.length_le
  have hstart : ∀ i < chunkCount f.size c, i * c < 2 ^ 32 := fun i hi =>
    Nat.lt_of_le_of_lt (Nat.mul_le_mul_right c (by omega)) hlow
  have hsent := dataSent_transfers f slot c (chunkCount f.size c) xs
  rw [chunkLen_sum f c xs.length hs hc hm fun i hi => hstart i (by omega)] at hsent
  refine ⟨?_, ?_, ?_, nofun, ?_⟩
  · exact ⟨_, transfers_actions f slot c _ xs, pickAction_inSequence xs.length _ hm⟩
  · intro i cmd hcmd
    obtain ⟨x, hx, rfl⟩ := transfers_get f slot c _ xs i cmd hcmd
    have hi : i < xs.length := (List.getElem?_eq_some_iff.mp hx).1
    have hlt := chunk_start_lt f.size c i hs hc (by omega)
    rw [dataSent_take f slot c _ xs i (by omega), chunkLen_sum_before_last f c i hs hc (by omega)]
    have hoff : (transferFwReq slot (chunkAt f c (chunkCount f.size c) i)).offset.val = i * c / 128 := by
      change (chunkOffset c i).val / 128 % 2 ^ 32 = _
      have := hstart i (by omega)
      rw [chunkOffset_of_lt c i this]
      omega
    refine ⟨?_, ?_, ?_⟩
    · rw [hoff]
      exact Nat.div_mul_cancel (Dvd.dvd.mul_left hdvd i)
    · change f.read _ _ = f.read _ (f.read _ _).length
      rw [File.read_length]
    · change i * c + (f.read _ _).length ≤ f.size
      rw [File.read_length, chunkLen_of_lt f c i (hstart i (by omega))]
      omega
  · intro i cmd hcmd hi
    obtain ⟨x, hx, rfl⟩ := transfers_get f slot c _ xs i cmd hcmd
    rw [transfers_length] at hi
    exact hrun.ok_before_last i x hx hi
  · rw [hsent, transfers_ok, ne_eq, ← List.length_eq_zero_iff, transfers_length]
    have hcover := (chunkCount_spec f.size c hs hc).2
    have hpos := chunkCount_pos f.size c hs hc
    rcases hrun.ends_readable hread with ⟨hall, hn, rfl⟩ | ⟨rfl, hr⟩ | ⟨hmem, hno⟩
    · have hmul := Nat.mul_le_mul_right c hn
      exact ⟨fun _ => ⟨by omega, by omega, hall⟩, fun _ => rfl⟩
    · rw [hr]
      exact ⟨fun h => absurd h (by decide), fun h => absurd rfl h.1⟩
    · constructor
      · intro h
        obtain rfl : r = 0 := End.returned.inj h
        exact absurd hno (by decide)
      · intro h
        exact absurd (hno.symm.trans (h.2.2 r hmem)) Bool.false_ne_true

include hs hc in
/-- What delivery asks of a run against a device that takes everything with a zero. -/
theorem chunkRun_of_delivers (n m : ℕ) (hn : n ≤ chunkCount f.size c)
    (hrun : ChunkRun xferFwOk (chunkReadable os f c) n 0 (-1) (List.replicate m 0) 0)
    (hd : Delivers f (transfers f slot c n (List.replicate m 0)) (.returned 0)) :
    n = chunkCount f.size c ∧ (chunkCount f.size c - 1) * c < 2 ^ 32 ∧
      ∀ i < chunkCount f.size c, chunkReadable os f c i = true := by
  obtain ⟨hne, hsize, -⟩ := hd.returns.mp rfl
  rw [dataSent_transfers, List.length_replicate] at hsize
  have hm : m ≤ n := List.length_replicate (n := m) (a := (0 : ℤ)) ▸ hrun.length_le
  have hall : chunkCount f.size c ≤ m := by
    by_contra hlt
    have hle := chunkLen_sum_le f c m
    have hmul : m * c ≤ (chunkCount f.size c - 1) * c := Nat.mul_le_mul_right c (by omega)
    have hstart := (chunkCount_spec f.size c hs hc).1
    omega
  obtain rfl : m = chunkCount f.size c := by omega
  have hpos := chunkCount_pos f.size c hs hc
  refine ⟨by omega, ?_, ?_⟩
  · -- the last command's offset field says where it starts
    have hget : (transfers f slot c n (List.replicate (chunkCount f.size c) 0))[chunkCount f.size c - 1]? =
        some (transferFwReq slot (chunkAt f c n (chunkCount f.size c - 1)), 0) := by
      rw [transfers, List.getElem?_mapIdx, List.getElem?_replicate, if_pos (by omega)]
      rfl
    have hplace := (hd.placed _ _ hget).1
    rw [dataSent_take f slot c n _ _ (by rw [List.length_replicate]; omega),
      chunkLen_sum_before_last f c _ hs hc (by omega)] at hplace
    have hoff : (transferFwReq slot (chunkAt f c n (chunkCount f.size c - 1))).offset.val ≤
        (chunkOffset c (chunkCount f.size c - 1)).val / 128 := Nat.mod_le _ _
    have hlt := (chunkOffset c (chunkCount f.size c - 1)).isLt
    dsimp only at hplace
    omega
  · intro i hi
    have hread := (hrun.readable_of_lt i (by rw [List.length_replicate]; exact hi)).2
    rwa [Nat.zero_add] at hread

end Delivery

/-! ### When a transfer delivers -/

theorem parseTransferFwReq_aligned (args : List String) (params : String × Byte × U 32)
    (h : parseTransferFwReq args = some params) : 128 ∣ params.2.2.val := by
  obtain ⟨p, hp, h⟩ := Option.bind_eq_some_iff.mp h
  obtain ⟨file, -, h⟩ := Option.bind_eq_some_iff.mp h
  obtain ⟨slot, -, rfl⟩ := Option.map_eq_some_iff.mp h
  refine parseOptions_invariant transferFwOption (fun p => 128 ∣ p.chunkSize.val) ?_ args _ p (by decide) hp
  intro opt v s s' hs hstore
  unfold transferFwOption at hstore
  split_ifs at hstore with _ _ _ _ hchunk
  · exact Option.some.inj hstore ▸ hs
  · exact Option.some.inj hstore ▸ hs
  · rw [← Option.some.inj hstore]
    change 128 ∣ _ % 2 ^ 32
    omega

/-- Once the file is open: the chunk size is not zero and can be added to the
file's, the number of chunks is not a multiple of 2^32, and if the first chunk
can be read, then so can all others, and the last one starts below 4 GiB. -/
def Transferable (os : (q : SysCall) → q.Answer) (f : File) (chunkSize : U 32) : Prop :=
  Opened os f → chunkSize ≠ 0 ∧ f.size + chunkSize.val < 2 ^ 63 ∧
    (os (.calloc (128 + chunkSize.val)) = true →
      ¬2 ^ 32 ∣ chunkCount f.size chunkSize.val ∧
      (reads os 0 (min f.size chunkSize.val) = true →
        (chunkCount f.size chunkSize.val - 1) * chunkSize.val < 2 ^ 32 ∧
        ∀ i, 0 < i → i < chunkCount f.size chunkSize.val →
          reads os (i * chunkSize.val) (min (f.size - i * chunkSize.val) chunkSize.val) = true))

section Transferable
variable (os : (q : SysCall) → q.Answer) (f : File) (slot : Byte) (chunkSize : U 32)

/-- A run of `transfer_fw_file` with these commands. -/
def TransferRun (l : List (SysCall × ℤ)) (e : End) : Prop :=
  FileRun os (transferFwSender slot xferSendDirect) (fun c => .transferFw (transferFwReq slot c)) f chunkSize l e

theorem pickTransfer_chunkCalls (n : ℕ) (xs : List ℤ) :
    (chunkCalls (fun c => .transferFw (transferFwReq slot c)) f chunkSize.val n 0 xs).filterMap pickTransfer =
      transfers f slot chunkSize.val n xs := by
  rw [filterMap_chunkCalls _ f chunkSize.val n pickTransfer (fun c x => (transferFwReq slot c, x)) fun _ _ => rfl]
  simp only [Nat.zero_add, transfers]

theorem transferable_of_delivers
    (hall : ∀ l e, TransferRun os f slot chunkSize l e → Delivers f (l.filterMap pickTransfer) e) :
    Transferable os f chunkSize := by
  intro hopen
  by_cases hc : chunkSize = 0 ∨ 2 ^ 63 ≤ f.size + chunkSize.val
  · exact absurd rfl (hall [] .undefined (.undefined hopen hc)).defined
  obtain ⟨hc0, hsum⟩ := not_or.mp hc
  have hval : chunkSize.val ≠ 0 := fun h => hc0 (Fin.ext h)
  refine ⟨hc0, Nat.lt_of_not_le hsum, fun ha => ?_⟩
  -- the run against the device that takes everything
  have hzeros : u32 (chunkCount f.size chunkSize.val) = 0 ∨ chunkReadable os f chunkSize.val 0 = true →
      u32 (chunkCount f.size chunkSize.val) = chunkCount f.size chunkSize.val ∧
        (chunkCount f.size chunkSize.val - 1) * chunkSize.val < 2 ^ 32 ∧
        ∀ i < chunkCount f.size chunkSize.val, chunkReadable os f chunkSize.val i = true := by
    intro h
    obtain ⟨m, hm⟩ := ChunkRun.exists_zeros xferFwOk (chunkReadable os f chunkSize.val) _ rfl
      (u32 (chunkCount f.size chunkSize.val)) 0 (-1) (Nat.zero_add _) (Or.inr (h.imp (fun h => Nat.le_of_eq h) id))
    have hd := hall _ _ (.sent hopen hc ha (List.replicate m 0) 0 hm)
    rw [pickTransfer_chunkCalls] at hd
    exact chunkRun_of_delivers os f slot chunkSize.val hopen.2.2.1 hval _ m (u32_le _) hm hd
  refine ⟨fun hdiv => ?_, fun hread => ?_⟩
  · have hzero : u32 (chunkCount f.size chunkSize.val) = 0 := Nat.mod_eq_zero_of_dvd hdiv
    have hcount := (hzeros (Or.inl hzero)).1
    have hpos := chunkCount_pos f.size chunkSize.val hopen.2.2.1 hval
    omega
  · obtain ⟨-, hlow, hreads⟩ := hzeros (Or.inr ((chunkReadable_zero os f chunkSize.val).trans hread))
    refine ⟨hlow, fun i _ hi => ?_⟩
    rw [← chunkReadable_before os f chunkSize.val hopen.2.2.1 hval hlow i hi]
    exact hreads i hi

theorem delivers_of_transferable (hdvd : 128 ∣ chunkSize.val) (hcond : Transferable os f chunkSize)
    (l : List (SysCall × ℤ)) (e : End) (hrun : TransferRun os f slot chunkSize l e) :
    Delivers f (l.filterMap pickTransfer) e := by
  cases hrun with
  | unopened h => exact delivers_nothing f
  | undefined hopen hc =>
    obtain ⟨hc0, hsum, -⟩ := hcond hopen
    rcases hc with h | h
    · exact absurd h hc0
    · omega
  | noMemory hopen hc ha => exact delivers_nothing f
  | sent hopen hc ha xs rc hxs =>
    obtain ⟨hc0, -, hloop⟩ := hcond hopen
    obtain ⟨hdiv, hreads⟩ := hloop ha
    have hval : chunkSize.val ≠ 0 := fun h => hc0 (Fin.ext h)
    rw [pickTransfer_chunkCalls]
    cases hread : chunkReadable os f chunkSize.val 0 with
    | false =>
      have hn : 0 < u32 (chunkCount f.size chunkSize.val) :=
        Nat.pos_of_ne_zero fun h => hdiv (Nat.dvd_of_mod_eq_zero h)
      rw [chunkRun_iff _ _ _ _ _ _ _ hn, hread] at hxs
      obtain ⟨rfl, rfl⟩ := hxs
      exact delivers_nothing f
    | true =>
      obtain ⟨hlow, hlater⟩ := hreads ((chunkReadable_zero os f chunkSize.val).symm.trans hread)
      have hcount : u32 (chunkCount f.size chunkSize.val) = chunkCount f.size chunkSize.val := by
        apply u32_of_lt
        have h128 : 128 ≤ chunkSize.val := Nat.le_of_dvd (Nat.pos_of_ne_zero hval) hdvd
        have hmul := Nat.mul_le_mul_left (chunkCount f.size chunkSize.val - 1) h128
        omega
      rw [hcount] at hxs ⊢
      refine delivers_of_chunkRun os f slot chunkSize.val hopen.2.2.1 hval hdvd hlow (fun i h0 hi => ?_) xs rc hxs
      rw [chunkReadable_before os f chunkSize.val hopen.2.2.1 hval hlow i hi]
      exact hlater i h0 hi

end Transferable

theorem transfer_delivers_iff (args : List String) (params : String × Byte × U 32)
    (hargs : parseTransferFwReq args = some params) (disk : Disk) (f : File) (hf : disk params.1 = some f)
    (os : (q : SysCall) → q.Answer) :
    (∀ t e, (transferFwFile disk params xferSendDirect).Runs t e → Follows os t →
      Delivers f (transferCommands t) e) ↔ Transferable os f params.2.2 := by
  have hruns := forall_runs_sendFile os _ _ f (transferFw_asks os params.2.1) disk params.1 hf params.2.2
    fun l e => Delivers f (l.filterMap pickTransfer) e
  refine hruns.trans ⟨transferable_of_delivers os f params.2.1 params.2.2, fun hcond => ?_⟩
  exact delivers_of_transferable os f params.2.1 params.2.2 (parseTransferFwReq_aligned args params hargs) hcond

/-- An image of 200 bytes. -/
def smallFile : File := ⟨200, fun _ => 0, by decide⟩

theorem smallFile_transferable : Transferable willing smallFile 128 ∧
    ∀ t e, (transferFwFile (fun _ => some smallFile) ("fw.bin", 1, 128) xferSendDirect).Runs t e →
      Follows willing t → Delivers smallFile (transferCommands t) e := by
  have hcond : Transferable willing smallFile 128 := by
    refine fun _ => ⟨by decide, by decide, fun _ => ⟨by decide, fun _ => ⟨by decide, fun i _ _ => rfl⟩⟩⟩
  exact ⟨hcond, (transfer_delivers_iff ["--input", "fw.bin", "--slot", "1", "--chunk-size", "128"] ("fw.bin", 1, 128)
    (by decide) _ smallFile rfl willing).mpr hcond⟩

/-- The second chunk cannot be read: the result of the first one is returned. -/
theorem unread_chunk_returns_zero :
    parseTransferFwReq ["--input", "fw.bin", "--slot", "1", "--chunk-size", "128"] = some ("fw.bin", 1, 128) ∧
    ∃ t, (transferFwFile (fun _ => some smallFile) ("fw.bin", 1, 128) xferSendDirect).Runs t (.returned 0) ∧
      Follows (unreadableAt 128) t ∧ dataSent (transferCommands t) = 128 ∧
      ¬Delivers smallFile (transferCommands t) (.returned 0) := by
  refine ⟨by decide, ?_⟩
  have hrun := play_runs (fun _ => unreadableAt 128)
    (transferFwFile (fun _ => some smallFile) ("fw.bin", 1, 128) xferSendDirect) []
  have hos := follows_oracle (unreadableAt 128)
    (transferFwFile (fun _ => some smallFile) ("fw.bin", 1, 128) xferSendDirect)
  have hsent : dataSent (transferCommands ((transferFwFile (fun _ => some smallFile) ("fw.bin", 1, 128)
      xferSendDirect).play (fun _ => unreadableAt 128) []).1) = 128 := by decide +kernel
  refine ⟨_, hrun, hos, hsent, fun hd => ?_⟩
  have hall := (hd.returns.mp rfl).2.1
  exact absurd (hsent.symm.trans hall) (by decide)

end LibCxlmi.Tools
