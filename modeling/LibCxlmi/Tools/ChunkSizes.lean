import LibCxlmi.Tools.Dlcfg
import LibCxlmi.Tools.TransferFw

/-!
# Chunk sizes (cmd_fw.c:110-157, cmd_vu_dlcfg.c:124-168)

The two download tools take a chunk size from the command line and send a file in
chunks of it. The size is checked as an `unsigned long` and stored in 32 bits;
the number of chunks is an `unsigned`.
-/

namespace LibCxlmi.Tools
open LibCxlmi.Word LibCxlmi.Text LibCxlmi.Dialogue

/-- What is downloaded, with the argument that goes into every request. -/
inductive Download where
  | firmware (slot : Byte)
  | config (cfgType : U 32)
  deriving DecidableEq, Repr

/- `CXL_FW_OFFSET_ALIGN` and `DLCFG_ALIGN`. -/
def Download.alignment : Download → ℕ
  | .firmware _ => 128
  | .config _ => 4

/-- The argument list is accepted, with this file and this chunk size. -/
inductive Download.Accepts : Download → List String → String → U 32 → Prop
  | transferFw (args : List String) (file : String) (slot : Byte) (c : U 32)
      (h : parseTransferFwReq args = some (file, slot, c)) : Accepts (.firmware slot) args file c
  | vuDlcfg (args : List String) (file : String) (cfgType c : U 32)
      (h : parseVuDlcfgReq args = some (file, cfgType, c)) : Accepts (.config cfgType) args file c

/-! ### The chunk size of an argument list -/

/-- The value of the last option of that name. -/
def lastValue (name : String) : List String → Option String → Option String
  | opt :: v :: rest, last => lastValue name rest (if opt = name then some v else last)
  | _, last => last

theorem parseOptions_lastValue {σ : Type} (store : String → String → σ → Option σ) (name : String)
    (inv : Option String → σ → Prop)
    (hstep : ∀ opt v last s s', inv last s → store opt v s = some s' → inv (if opt = name then some v else last) s')
    (args : List String) (last : Option String) (s s' : σ) (hs : inv last s)
    (h : parseOptions store args s = some s') : inv (lastValue name args last) s' := by
  fun_induction parseOptions store args s generalizing last with
  | case1 s => exact Option.some.inj h ▸ hs
  | case2 x s => cases h
  | case3 opt v rest s hstore => cases h
  | case4 opt v rest s s₁ hstore ih => exact ih _ (hstep opt v last s s₁ hs hstore) h

/-- The check is on what `strtoul` returns; 32 bits of it are stored. -/
def ChunkSizeFrom (align : ℕ) (last : Option String) (c : U 32) : Prop :=
  ∀ v, last = some v → align ≤ strtoul v ∧ align ∣ strtoul v ∧ c = toU32 (strtoul v)

theorem chunkSizeFrom_keep (align : ℕ) (opt v : String) (last : Option String) (c : U 32)
    (hopt : opt ≠ "--chunk-size") (h : ChunkSizeFrom align last c) :
    ChunkSizeFrom align (if opt = "--chunk-size" then some v else last) c := by
  rwa [if_neg hopt]

theorem chunkSizeFrom_store (align : ℕ) (v : String) (last : Option String)
    (h : ¬(strtoul v < align ∨ strtoul v % align ≠ 0)) :
    ChunkSizeFrom align (if "--chunk-size" = "--chunk-size" then some v else last) (toU32 (strtoul v)) := by
  intro w hw
  rw [if_pos rfl] at hw
  obtain rfl := Option.some.inj hw
  obtain ⟨hle, hmod⟩ := not_or.mp h
  exact ⟨Nat.le_of_not_lt hle, Nat.dvd_of_mod_eq_zero (not_not.mp hmod), rfl⟩

theorem parseTransferFwReq_chunkSize (args : List String) (file : String) (slot : Byte) (c : U 32)
    (h : parseTransferFwReq args = some (file, slot, c)) :
    ChunkSizeFrom 128 (lastValue "--chunk-size" args none) c := by
  obtain ⟨p, hp, h⟩ := Option.bind_eq_some_iff.mp h
  obtain ⟨_, -, h⟩ := Option.bind_eq_some_iff.mp h
  obtain ⟨_, -, h⟩ := Option.map_eq_some_iff.mp h
  cases h
  refine parseOptions_lastValue transferFwOption "--chunk-size" (fun last p => ChunkSizeFrom 128 last p.chunkSize) ?_
    args none _ p (fun v hv => nomatch hv) hp
  intro opt v last s s' hs hstore
  unfold transferFwOption at hstore
  split_ifs at hstore with hinput hslot _ hsize hbad
  · cases hstore
    exact chunkSizeFrom_keep 128 opt v last _ (by rw [hinput]; decide) hs
  · cases hstore
    exact chunkSizeFrom_keep 128 opt v last _ (by rw [hslot]; decide) hs
  · cases hstore
    rw [hsize]
    exact chunkSizeFrom_store 128 v last hbad

theorem parseVuDlcfgReq_chunkSize (args : List String) (file : String) (cfgType c : U 32)
    (h : parseVuDlcfgReq args = some (file, cfgType, c)) :
    ChunkSizeFrom 4 (lastValue "--chunk-size" args none) c := by
  obtain ⟨p, hp, h⟩ := Option.bind_eq_some_iff.mp h
  obtain ⟨_, -, h⟩ := Option.bind_eq_some_iff.mp h
  obtain ⟨_, -, h⟩ := Option.map_eq_some_iff.mp h
  cases h
  refine parseOptions_lastValue vuDlcfgOption "--chunk-size" (fun last p => ChunkSizeFrom 4 last p.chunkSize) ?_
    args none _ p (fun v hv => nomatch hv) hp
  intro opt v last s s' hs hstore
  unfold vuDlcfgOption at hstore
  split_ifs at hstore with hinput htype hsize hbad
  · cases hstore
    exact chunkSizeFrom_keep 4 opt v last _ (by rw [hinput]; decide) hs
  · obtain ⟨t, -, rfl⟩ := Option.map_eq_some_iff.mp hstore
    exact chunkSizeFrom_keep 4 opt v last _ (by rw [htype]; decide) hs
  · cases hstore
    rw [hsize]
    exact chunkSizeFrom_store 4 v last hbad

theorem Download.Accepts.chunkSizeFrom {d : Download} {args : List String} {file : String} {c : U 32}
    (h : d.Accepts args file c) : ChunkSizeFrom d.alignment (lastValue "--chunk-size" args none) c := by
  cases h with
  | transferFw _ _ slot _ h => exact parseTransferFwReq_chunkSize args file slot c h
  | vuDlcfg _ _ cfgType _ h => exact parseVuDlcfgReq_chunkSize args file cfgType c h

/-! ### Chunk sizes that can be used -/

/-- The number an argument is, if it is one as a whole. -/
def numberWritten (v : String) : Option ℤ :=
  match numeral v with
  | some (neg, n, []) => some (if neg = true then -(n : ℤ) else (n : ℤ))
  | _ => none

/-- The sum that is divided by the chunk size is a `long`, the number of chunks
an `unsigned`. -/
structure ChunkUsable (align : ℕ) (v : String) (c : U 32) (f : File) : Prop where
  stored : numberWritten v = some (c.val : ℤ)
  nonzero : c ≠ 0
  least : align ≤ c.val
  multiple : align ∣ c.val
  divided : f.size + c.val < 2 ^ 63
  covered : f.size ≤ u32 (chunkCount f.size c.val) * c.val

theorem numberWritten_of_numeral (v : String) (n : ℕ) (h : numeral v = some (false, n, [])) :
    numberWritten v = some (n : ℤ) := by
  rw [numberWritten, h]
  rfl

/-- A negative number is not the value of any positive one. -/
theorem numeral_of_numberWritten (v : String) (n : ℕ) (hn : n ≠ 0) (h : numberWritten v = some (n : ℤ)) :
    numeral v = some (false, n, []) := by
  unfold numberWritten at h
  split at h
  · rename_i neg m hnum
    have hval := Option.some.inj h
    cases neg with
    | true =>
      rw [if_pos rfl] at hval
      omega
    | false =>
      rw [if_neg Bool.false_ne_true] at hval
      rw [hnum, Int.ofNat_inj.mp hval]
  · cases h

theorem strtoul_of_small (v : String) (n : ℕ) (hn : n < 2 ^ 32) (h : numeral v = some (false, n, [])) :
    strtoul v = n := by
  have hmax : ¬ulongMax < n := by
    unfold ulongMax
    omega
  rw [strtoul_of_numeral v false n [] h, signedValue, if_neg hmax, if_neg Bool.false_ne_true]

/-- Every number of chunks that an `unsigned` holds covers the file. -/
theorem chunks_cover_iff (size c : ℕ) (hc : c ≠ 0) :
    size ≤ u32 (chunkCount size c) * c ↔ size ≤ (2 ^ 32 - 1) * c := by
  constructor
  · intro h
    have hmod : u32 (chunkCount size c) < 2 ^ 32 := Nat.mod_lt _ (by decide)
    exact Nat.le_trans h (Nat.mul_le_mul_right c (by omega))
  · intro h
    rcases Nat.eq_zero_or_pos size with rfl | hpos
    · exact Nat.zero_le _
    · obtain ⟨hlast, hend⟩ := chunkCount_spec size c (by omega) hc
      have hlt : chunkCount size c - 1 < 2 ^ 32 - 1 :=
        Nat.lt_of_mul_lt_mul_right (Nat.lt_of_lt_of_le hlast h)
      rw [u32_of_lt (chunkCount size c) (by omega)]
      exact hend

/-- Usable if the argument as a whole is an unsigned number of 32 bits, and the file
has no more chunks of this size than an `unsigned` counts. -/
theorem chunk_size_usable_iff (d : Download) (args : List String) (file v : String) (c : U 32)
    (hacc : d.Accepts args file c) (hv : lastValue "--chunk-size" args none = some v) (f : File) :
    ChunkUsable d.alignment v c f ↔
      ∃ n, numeral v = some (false, n, []) ∧ n < 2 ^ 32 ∧ f.size ≤ (2 ^ 32 - 1) * n ∧ f.size + n < 2 ^ 63 := by
  obtain ⟨hle, hdvd, hc⟩ := hacc.chunkSizeFrom v hv
  constructor
  · intro h
    have hne : c.val ≠ 0 := fun h0 => h.nonzero (Fin.ext h0)
    exact ⟨c.val, numeral_of_numberWritten v c.val hne h.stored, c.isLt,
      (chunks_cover_iff f.size c.val hne).mp h.covered, h.divided⟩
  · rintro ⟨n, hnum, hn, hcover, hsum⟩
    have hs := strtoul_of_small v n hn hnum
    have hval : c.val = n := by
      rw [hc, hs]
      exact Nat.mod_eq_of_lt hn
    have halign : 0 < d.alignment := by cases d <;> exact Nat.succ_pos _
    rw [hs] at hle hdvd
    have hne : c.val ≠ 0 := by omega
    exact {
      stored := hval ▸ numberWritten_of_numeral v n hnum
      nonzero := fun h0 => hne (congrArg Fin.val h0)
      least := hval ▸ hle
      multiple := hval ▸ hdvd
      divided := hval ▸ hsum
      covered := (chunks_cover_iff f.size c.val hne).mpr (hval ▸ hcover) }

theorem smallChunks_usable : lastValue "--chunk-size"
      ["--input", "fw.bin", "--slot", "1", "--chunk-size", "0x80"] none = some "0x80" ∧
    ChunkUsable 128 "0x80" 128 smallFile :=
  ⟨by decide, (chunk_size_usable_iff (.firmware 1) ["--input", "fw.bin", "--slot", "1", "--chunk-size", "0x80"]
    "fw.bin" "0x80" 128 (.transferFw _ _ _ _ (by decide)) (by decide) smallFile).mpr
      ⟨128, by decide, by decide, by decide, by decide⟩⟩

/-- 2^32 passes the check and is stored as zero. -/
theorem chunkSize_wraps_to_zero : (Download.config 1).Accepts
      ["--input", "dev.bin", "--cfg-type", "DEV", "--chunk-size", "4294967296"] "dev.bin" 0 ∧
    numberWritten "4294967296" = some 4294967296 ∧ ¬ChunkUsable 4 "4294967296" 0 smallFile :=
  ⟨.vuDlcfg _ _ _ _ (by decide), by decide, fun h => h.nonzero rfl⟩

end LibCxlmi.Tools
