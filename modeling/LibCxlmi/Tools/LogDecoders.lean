import LibCxlmi.Word.Buffer
import LibCxlmi.Word.Spans

/-!
# Decoders of the logs (cmd_logs.c:166-325)

A log is a header and entries. In three of the logs all entries have one size; in the
long media test result each entry says how many signatures follow it, and the place of
the next one is added up in 32 bits. The buffer is seen as all of memory from its start
on, `length` being how much of it is the log.
-/

namespace LibCxlmi.Tools
open LibCxlmi.Word

/- `read_le16`, `read_le32`, `read_le64` and single bytes. -/
def readLe (buf : ℕ → Byte) (i n : ℕ) : ℕ := leVal ((List.range n).map fun k => buf (i + k))

/-- `view` is what is made of the number before it is printed. -/
structure LogField where
  name : String
  off : ℕ
  len : ℕ
  view : ℕ → ℕ
  note : ℕ → Option String

def LogField.span (f : LogField) : ℕ × ℕ := (f.off, f.len)

def numberField (name : String) (off len : ℕ) : LogField := ⟨name, off, len, id, fun _ => none⟩

structure LogValue where
  name : String
  value : ℕ
  note : Option String
  deriving DecidableEq, Repr

def LogField.read (buf : ℕ → Byte) (base : ℕ) (f : LogField) : LogValue :=
  let v := readLe buf (base + f.off) f.len
  ⟨f.name, f.view v, f.note (f.view v)⟩

def readFields (buf : ℕ → Byte) (base : ℕ) (fields : List LogField) : List LogValue := fields.map (·.read buf base)

def fieldSpans (fields : List LogField) : List (ℕ × ℕ) := fields.map LogField.span

/-! ### Entries of one size -/

/-- `count` is the number of entries, from the first byte and how many there is room for. -/
structure FixedLog where
  headerSz : ℕ
  entrySz : ℕ
  head : List LogField
  fields : List LogField
  count : Byte → ℕ → ℕ

def FixedLog.entries (d : FixedLog) (buf : ℕ → Byte) (length : U 32) : ℕ :=
  d.count (buf 0) ((length.val - d.headerSz) / d.entrySz)

/-- `none` when the payload is too short. -/
def FixedLog.print (d : FixedLog) (buf : ℕ → Byte) (length : U 32) : Option (List LogValue × List (List LogValue)) :=
  if length.val < d.headerSz then none
  else some (readFields buf 0 d.head,
    (List.range (d.entries buf length)).map fun i => readFields buf (d.headerSz + i * d.entrySz) d.fields)

def FixedLog.reads (d : FixedLog) (buf : ℕ → Byte) (length : U 32) : List (ℕ × ℕ) :=
  if length.val < d.headerSz then []
  else fieldSpans d.head ++ entryFields d.headerSz d.entrySz (fieldSpans d.fields) (d.entries buf length)

def ddr5EcsLog : FixedLog where
  headerSz := 4
  entrySz := 34
  head :=
    [numberField "Header raw" 0 1, numberField "Header raw" 1 1, numberField "Header raw" 2 1,
     numberField "Header raw" 3 1]
  fields :=
    [numberField "flags" 0 1, ⟨"dram_addr", 1, 8, (· % 2 ^ 48), fun _ => none⟩, numberField "ecs_error_count" 7 2,
     numberField "ecs_threshold" 9 2]
  count := fun _ avail => avail

/- A count of 0 or of more than there is room for does not count. -/
def mtEntryCount (reported : Byte) (avail : ℕ) : ℕ :=
  if reported.val = 0 ∨ reported.val > avail then avail else reported.val

def mtExecTimeScale (scale : ℕ) : String :=
  ["reserved", "10ms", "100ms", "1s", "10s", "100s", "1000s"].getD scale "reserved"

def mediaTestCapabilityLog : FixedLog where
  headerSz := 16
  entrySz := 16
  head :=
    [numberField "num_supported_tests" 0 1, numberField "long_ver" 5 1, numberField "short_ver" 6 1,
     numberField "caps" 7 1]
  fields :=
    [numberField "test_id" 0 2, numberField "algo" 2 1, numberField "exec_time" 3 1,
     ⟨"scale", 3, 1, (· % 16), fun scale => some (mtExecTimeScale scale)⟩, ⟨"value", 3, 1, (· / 16), fun _ => none⟩,
     numberField "caps" 4 2, numberField "patterns" 6 2]
  count := mtEntryCount

/- The fields that short and long results have at the same places. -/
def mediaTestResultFields : List LogField :=
  [numberField "test_id" 0 2, numberField "start" 0x02 8, numberField "end" 0x0a 8,
   numberField "result" 0x12 1, numberField "flags" 0x13 1,
   numberField "ue" 0x14 4, numberField "ce" 0x18 4]

def mediaTestResultHead : List LogField :=
  [numberField "num_tests" 0 1, numberField "version" 1 1, numberField "result" 2 1]

def mediaTestResultShortLog : FixedLog where
  headerSz := 16
  entrySz := 32
  head := mediaTestResultHead
  fields := mediaTestResultFields
  count := mtEntryCount

/-! ### The long media test result -/

def entryHdr : ℕ := 0x30
def sigSz : ℕ := 0x50

structure LongEntry where
  off : ℕ
  nSig : ℕ
  deriving DecidableEq, Repr

/- `n_sig` after it was cut down to the room behind the entry's header. -/
def clampedSignatures (buf : ℕ → Byte) (length off : ℕ) : ℕ :=
  let room := u32 (length + 2 ^ 32 - off)
  let maxSig := u32 (room + 2 ^ 32 - entryHdr) / sigSz
  min (readLe buf (off + 0x28) 4) maxSig

/-- The walk, for at most `rounds` entries. -/
def longEntries (buf : ℕ → Byte) (length : ℕ) : ℕ → ℕ → List LongEntry
  | 0, _ => []
  | rounds + 1, off =>
      if u32 (off + entryHdr) ≤ length then
        let nSig := clampedSignatures buf length off
        ⟨off, nSig⟩ :: longEntries buf length rounds (u32 (off + u32 (entryHdr + u32 (nSig * sigSz))))
      else []

def mediaTestLongEntries (buf : ℕ → Byte) (length : U 32) : List LongEntry :=
  if length.val < 16 then [] else longEntries buf length.val 64 16

/- `signatures` is printed as it is after the clamp. -/
def longFields : List LogField := mediaTestResultFields ++ [numberField "capacity_tested_256mb" 0x20 8]

def sigFields : List LogField :=
  [numberField "iter" 0 2, ⟨"volatile", 2, 8, (· % 2), fun _ => none⟩, ⟨"err_type", 2, 8, (· / 2 % 4), fun _ => none⟩,
   ⟨"dpa", 2, 8, (· / 64), fun _ => none⟩]

structure LongPrint where
  values : List LogValue
  signatures : ℕ
  sigs : List (List LogValue)

def LongEntry.print (buf : ℕ → Byte) (e : LongEntry) : LongPrint :=
  ⟨readFields buf e.off longFields, e.nSig,
   (List.range e.nSig).map fun s => readFields buf (e.off + entryHdr + s * sigSz) sigFields⟩

def printMediaTestResultLongLog (buf : ℕ → Byte) (length : U 32) : Option (List LogValue × List LongPrint) :=
  if length.val < 16 then none
  else some (readFields buf 0 mediaTestResultHead, (mediaTestLongEntries buf length).map (·.print buf))

def LongEntry.reads (e : LongEntry) : List (ℕ × ℕ) :=
  shifted e.off ((0x28, 4) :: fieldSpans longFields) ++
    entryFields (e.off + entryHdr) sigSz (fieldSpans sigFields) e.nSig

def longReads (buf : ℕ → Byte) (length : U 32) : List (ℕ × ℕ) :=
  if length.val < 16 then []
  else fieldSpans mediaTestResultHead ++ (mediaTestLongEntries buf length).flatMap LongEntry.reads

/-! ### Reads -/

theorem FixedLog.reads_inside (d : FixedLog) (buf : ℕ → Byte) (length : U 32)
    (hhead : Inside d.headerSz (fieldSpans d.head))
    (hfields : Inside d.entrySz (fieldSpans d.fields)) (hcount : ∀ b avail, d.count b avail ≤ avail) :
    Inside length.val (d.reads buf length) := by
  unfold FixedLog.reads
  split_ifs with hshort
  · exact inside_nil length.val
  · have hlen := Nat.le_of_not_lt hshort
    have hn : d.entries buf length ≤ (length.val - d.headerSz) / d.entrySz := hcount _ _
    have hroom : d.entries buf length * d.entrySz ≤ length.val - d.headerSz :=
      (Nat.mul_le_mul_right _ hn).trans (Nat.div_mul_le_self _ _)
    refine (inside_append _ _ _).mpr ⟨hhead.mono _ _ _ hlen, ?_⟩
    refine inside_entryFields d.headerSz d.entrySz d.entrySz _ _ _ hfields ?_
    rcases Nat.eq_zero_or_pos (d.entries buf length) with hzero | hpos
    · exact Or.inl hzero
    · obtain ⟨k, hk⟩ := Nat.exists_eq_add_of_lt hpos
      rw [Nat.zero_add] at hk
      rw [hk, Nat.succ_mul] at hroom
      rw [hk, Nat.add_sub_cancel]
      exact Or.inr (by omega)

theorem mtEntryCount_le (reported : Byte) (avail : ℕ) : mtEntryCount reported avail ≤ avail := by
  unfold mtEntryCount
  split_ifs with h
  · exact le_rfl
  · omega

/-- The three logs whose entries have one size are read inside the buffer. -/
theorem fixed_logs_inside (buf : ℕ → Byte) (length : U 32) :
    Inside length.val (ddr5EcsLog.reads buf length) ∧ Inside length.val (mediaTestCapabilityLog.reads buf length) ∧
      Inside length.val (mediaTestResultShortLog.reads buf length) := by
  refine ⟨?_, ?_, ?_⟩
  · exact ddr5EcsLog.reads_inside buf length (by decide) (by decide) fun _ _ => le_rfl
  · exact mediaTestCapabilityLog.reads_inside buf length (by decide) (by decide) mtEntryCount_le
  · exact mediaTestResultShortLog.reads_inside buf length (by decide) (by decide) mtEntryCount_le

/-- The header of the entry and all of its signatures are in the log. -/
def LongEntry.Within (length : ℕ) (e : LongEntry) : Prop :=
  e.off + entryHdr ≤ length ∧ ∀ s < e.nSig, e.off + entryHdr + s * sigSz + sigSz ≤ length

theorem LongEntry.reads_inside (length : ℕ) (e : LongEntry) (h : e.Within length) : Inside length e.reads := by
  obtain ⟨hhead, hsigs⟩ := h
  have hfields : Inside entryHdr ((0x28, 4) :: fieldSpans longFields) := by decide
  have hsig : Inside sigSz (fieldSpans sigFields) := by decide
  refine (inside_append _ _ _).mpr ⟨?_, ?_⟩
  · exact ((inside_shifted e.off entryHdr _).mpr hfields).mono _ _ _ hhead
  · refine inside_entryFields _ _ sigSz _ _ _ hsig ?_
    rcases Nat.eq_zero_or_pos e.nSig with hzero | hpos
    · exact Or.inl hzero
    · exact Or.inr (hsigs (e.nSig - 1) (by omega))

theorem longEntries_length_le (buf : ℕ → Byte) (length rounds off : ℕ) :
    (longEntries buf length rounds off).length ≤ rounds := by
  induction rounds generalizing off with
  | zero => exact le_rfl
  | succ rounds ih =>
    unfold longEntries
    split_ifs
    · exact Nat.succ_le_succ (ih _)
    · exact Nat.zero_le _

/-! ### Nothing else is read -/

/-- The two memories are the same where the spans are. -/
def AgreeOn (buf buf' : ℕ → Byte) (spans : List (ℕ × ℕ)) : Prop :=
  ∀ s ∈ spans, ∀ k < s.2, buf (s.1 + k) = buf' (s.1 + k)

section Agree
variable {buf buf' : ℕ → Byte}

theorem AgreeOn.readLe {spans : List (ℕ × ℕ)} (h : AgreeOn buf buf' spans) (i n : ℕ) (hmem : (i, n) ∈ spans) :
    Tools.readLe buf i n = Tools.readLe buf' i n := by
  unfold Tools.readLe
  congr 1
  exact List.map_congr_left fun k hk => h (i, n) hmem k (List.mem_range.mp hk)

theorem AgreeOn.readFields {fields : List LogField} (base : ℕ)
    (h : AgreeOn buf buf' (shifted base (fieldSpans fields))) :
    Tools.readFields buf base fields = Tools.readFields buf' base fields := by
  refine List.map_congr_left fun f hf => ?_
  have hmem : (base + f.off, f.len) ∈ shifted base (fieldSpans fields) :=
    List.mem_map_of_mem (List.mem_map_of_mem (f := LogField.span) hf)
  simp only [LogField.read, h.readLe _ _ hmem]

theorem AgreeOn.left {xs ys : List (ℕ × ℕ)} (h : AgreeOn buf buf' (xs ++ ys)) : AgreeOn buf buf' xs :=
  fun s hs => h s (List.mem_append_left ys hs)

theorem AgreeOn.right {xs ys : List (ℕ × ℕ)} (h : AgreeOn buf buf' (xs ++ ys)) : AgreeOn buf buf' ys :=
  fun s hs => h s (List.mem_append_right xs hs)

theorem AgreeOn.entry {base stride n i : ℕ} {fields : List LogField} (hi : i < n)
    (h : AgreeOn buf buf' (entryFields base stride (fieldSpans fields) n)) :
    Tools.readFields buf (base + i * stride) fields = Tools.readFields buf' (base + i * stride) fields := by
  refine AgreeOn.readFields _ fun s hs => h s ?_
  exact List.mem_flatMap.mpr ⟨i, List.mem_range.mpr hi, hs⟩

theorem AgreeOn.head {fields : List LogField} (h : AgreeOn buf buf' (fieldSpans fields)) :
    Tools.readFields buf 0 fields = Tools.readFields buf' 0 fields := by
  refine AgreeOn.readFields 0 ?_
  have hzero : shifted 0 (fieldSpans fields) = fieldSpans fields := by simp [shifted]
  rw [hzero]
  exact h

/-- What is printed depends on the bytes that are read, the first of them included. -/
theorem FixedLog.print_congr (d : FixedLog) (length : U 32) (hfirst : (0, 1) ∈ fieldSpans d.head)
    (h : AgreeOn buf buf' (d.reads buf length)) : d.print buf length = d.print buf' length := by
  unfold FixedLog.reads at h
  unfold FixedLog.print
  split_ifs at h ⊢ with hshort
  · rfl
  · have hzero : buf 0 = buf' 0 := h.left (0, 1) hfirst 0 Nat.one_pos
    have hcount : d.entries buf length = d.entries buf' length := by rw [entries, entries, hzero]
    rw [h.left.head, ← hcount]
    congr 2
    exact List.map_congr_left fun i hi => h.right.entry (List.mem_range.mp hi)

theorem longEntries_congr (length rounds off : ℕ)
    (h : AgreeOn buf buf' ((longEntries buf length rounds off).flatMap LongEntry.reads)) :
    longEntries buf length rounds off = longEntries buf' length rounds off := by
  induction rounds generalizing off with
  | zero => rfl
  | succ rounds ih =>
    unfold longEntries at h ⊢
    split_ifs at h ⊢ with hin
    · have hsigs : clampedSignatures buf length off = clampedSignatures buf' length off := by
        have hmem : (off + 0x28, 4) ∈ (⟨off, clampedSignatures buf length off⟩ : LongEntry).reads :=
          List.mem_append_left _ List.mem_cons_self
        simp only [clampedSignatures, h.left.readLe _ _ hmem]
      have hrest := ih _ h.right
      dsimp only
      rw [hrest, hsigs]
    · rfl

theorem LongEntry.print_congr (e : LongEntry) (h : AgreeOn buf buf' e.reads) : e.print buf = e.print buf' := by
  have hvalues : Tools.readFields buf e.off longFields = Tools.readFields buf' e.off longFields :=
    AgreeOn.readFields e.off fun s hs => h.left s (List.mem_cons_of_mem _ hs)
  have hsigs : (List.range e.nSig).map (fun s => Tools.readFields buf (e.off + entryHdr + s * sigSz) sigFields) =
      (List.range e.nSig).map fun s => Tools.readFields buf' (e.off + entryHdr + s * sigSz) sigFields :=
    List.map_congr_left fun s hs => h.right.entry (List.mem_range.mp hs)
  simp only [LongEntry.print, hvalues, hsigs]

theorem printMediaTestResultLongLog_congr (length : U 32) (h : AgreeOn buf buf' (longReads buf length)) :
    printMediaTestResultLongLog buf length = printMediaTestResultLongLog buf' length := by
  unfold longReads at h
  unfold printMediaTestResultLongLog
  split_ifs at h ⊢ with hshort
  · rfl
  · have hentries : mediaTestLongEntries buf length = mediaTestLongEntries buf' length := by
      have hwalk := h.right
      simp only [mediaTestLongEntries, if_neg hshort] at hwalk ⊢
      exact longEntries_congr length.val 64 16 hwalk
    rw [h.left.head, ← hentries]
    congr 2
    refine List.map_congr_left fun e he => e.print_congr fun s hs => h.right s ?_
    exact List.mem_flatMap.mpr ⟨e, he, hs⟩

end Agree

end LibCxlmi.Tools
