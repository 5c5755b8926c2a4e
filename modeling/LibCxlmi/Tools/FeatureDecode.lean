import LibCxlmi.Tools.SdbTunnel

/-!
# Decoding a Get Feature reply (cmd_feature_decode.c)

The reply holds the bytes `[offset, offset + count)` of a feature's data. A field is
printed when `field_in_window` says so, and is then read at its place less the
offset, which is outside the reply when only a part of the field is in it.
-/

namespace LibCxlmi.Tools
open LibCxlmi.Word

/-! ### Names of values -/

/- A `switch` over small values with a default. -/
def valueName (names : List String) (other : String) (v : ℕ) : String := names.getD v other

def pprMode : ℕ → String := valueName ["Disabled", "Host Initiated", "Device Initiated"] "Reserved"
def progressStatus : ℕ → String := valueName ["Not in progress", "In progress"] "Reserved"
def pprResult : ℕ → String := valueName ["Success", "Failure"] "Reserved"
def disabledEnabled : ℕ → String := valueName ["Disabled", "Enabled"] "Reserved"
def supportState : ℕ → String :=
  valueName ["Not supported", "Supported disabled", "Illegal", "Supported enabled"] "Reserved"
def patrolInterval : ℕ → String := valueName ["24 hours", "12 hours", "6 hours", "3 hours"] "Reserved"
def capableState : ℕ → String := valueName ["Not capable", "Capable"] "Reserved"
def overflowState : ℕ → String := valueName ["No overflow", "Overflow occurred"] "Reserved"
def thresholdType : ℕ → String := valueName ["Correctable", "Uncorrectable"] "Reserved"
def pagePolicy : ℕ → String := valueName ["Open", "Closed", "Adaptive"] "Vendor defined"
def interleaveMode : ℕ → String :=
  valueName ["Linear", "Open Page", "Closed Page", "3DS Open Page", "3DS Closed Page"] "Vendor defined"
def dramEcc : ℕ → String :=
  valueName ["Single bit error detect and correct", "Multi-bit error detect and correct"] "Vendor defined"
def dualPortMode : ℕ → String := valueName ["Divided", "Sectioned"] "Reserved"

/-! ### Fields -/

/-- `notes` are the texts behind the value. -/
structure FeatureField where
  name : String
  off : ℕ
  len : ℕ
  notes : ℕ → List String

structure FeatureLayout where
  heading : String
  fields : List FeatureField

def plainField (name : String) (off len : ℕ) : FeatureField := ⟨name, off, len, fun _ => []⟩
def namedField (name : String) (off : ℕ) (text : ℕ → String) : FeatureField := ⟨name, off, 1, fun v => [text v]⟩

def printSppr : FeatureLayout :=
  ⟨"Readable attributes (sPPR):",
   [namedField "sPPR Mode" 0x00 pprMode, namedField "sPPR Status" 0x01 progressStatus,
    plainField "sPPR Progress" 0x02 1, namedField "sPPR Result" 0x03 pprResult,
    plainField "sPPR Address" 0x04 4, plainField "sPPR Row" 0x08 2]⟩

def printHppr : FeatureLayout :=
  ⟨"Readable attributes (hPPR):",
   [namedField "hPPR Mode" 0x00 pprMode, namedField "hPPR Status" 0x01 progressStatus,
    plainField "hPPR Progress" 0x02 1, namedField "hPPR Result" 0x03 pprResult,
    plainField "hPPR Bank" 0x04 1, plainField "hPPR Row" 0x05 1]⟩

def printPartialScrub : FeatureLayout :=
  ⟨"Readable attributes (Device Patrol Scrub):",
   [namedField "Patrol Scrub Mode" 0x00 disabledEnabled, namedField "Patrol Scrub Interval" 0x01 patrolInterval,
    namedField "Patrol Scrub Status" 0x02 progressStatus, namedField "Real-time Reporting" 0x03 capableState]⟩

def printDdr5Ecs : FeatureLayout :=
  ⟨"Readable attributes (DDR5 ECS):",
   [namedField "ECS Mode" 0x00 disabledEnabled,
    namedField "ECS Interval" 0x01 fun v => if v = 0 then "Default" else "Custom",
    namedField "ECS Status" 0x02 progressStatus, plainField "ECS Log Count" 0x03 1,
    namedField "ECS Log Overflow" 0x04 overflowState]⟩

def eventFlags (v : ℕ) : List String :=
  (if v % 2 = 1 then ["[Threshold reached]"] else []) ++ if v / 2 % 2 = 1 then ["[Overflow]"] else []

def printCvme : FeatureLayout :=
  ⟨"Readable attributes (CVME Threshold):",
   [namedField "Threshold Enable" 0x00 disabledEnabled, namedField "Threshold Type" 0x01 thresholdType,
    plainField "Threshold Value" 0x02 2, plainField "Current Count" 0x04 2, plainField "Time Window" 0x06 2,
    namedField "Leaky Bucket Enable" 0x08 disabledEnabled, plainField "Leaky Bucket Rate" 0x09 1,
    plainField "Leaky Bucket Value" 0x0a 2, ⟨"Event Flags", 0x0c, 1, eventFlags⟩,
    plainField "CVME Count at Event" 0x0e 2]⟩

def printAddressPolicy : FeatureLayout :=
  ⟨"Readable attributes (Addressing Policy):",
   [namedField "Page Policy" 0x00 pagePolicy, namedField "Interleave Mode" 0x01 interleaveMode]⟩

def printRas : FeatureLayout :=
  ⟨"Readable attributes (RAS Features):",
   [plainField "Info Event Log Count" 0x00 1, plainField "Warning Event Log Count" 0x01 1,
    plainField "Failure Event Log Count" 0x02 1, plainField "Fatal Event Log Count" 0x03 1,
    namedField "DRAM ECC" 0x04 dramEcc,
    namedField "SDFC Mode" 0x05 fun v => if v = 1 then "Enabled" else "Disabled/Vendor defined",
    namedField "Demand Scrubbing" 0x06 disabledEnabled, namedField "Write CRC" 0x07 supportState,
    plainField "Write CRC Retries (cfg)" 0x08 1, plainField "Write CRC Retries (max)" 0x09 1,
    namedField "Read CRC" 0x0a supportState, plainField "Read CRC Retries (cfg)" 0x0b 1,
    plainField "Read CRC Retries (max)" 0x0c 1, namedField "CA Parity Detection" 0x0d supportState,
    plainField "CA Parity Retries (cfg)" 0x0e 1, plainField "CA Parity Retries (max)" 0x0f 1,
    namedField "Signal viral for fatal" 0x10 disabledEnabled,
    namedField "Write pscrub corr data" 0x11 disabledEnabled,
    namedField "Write poison for uncorr" 0x12 disabledEnabled]⟩

def printCmcRefresh : FeatureLayout :=
  ⟨"Readable attributes (CMC Refresh):",
   [namedField "DRFM" 0x00 supportState, namedField "PRAC" 0x01 disabledEnabled,
    plainField "Additional Attributes" 0x02 1]⟩

def printDualPort : FeatureLayout :=
  ⟨"Readable attributes (Dual Port):",
   [namedField "Dual Port Mode" 0x00 dualPortMode, plainField "Port 0 Base Address" 0x01 8,
    plainField "Port 0 Space Size" 0x09 8, plainField "Port 1 Base Address" 0x11 8,
    plainField "Port 1 Space Size" 0x19 8]⟩

def featureLayout : FeatureKind → FeatureLayout
  | .sppr => printSppr
  | .hppr => printHppr
  | .partialScrub => printPartialScrub
  | .ddr5Ecs => printDdr5Ecs
  | .cvme => printCvme
  | .addressPolicy => printAddressPolicy
  | .ras => printRas
  | .cmcRefresh => printCmcRefresh
  | .dualPort => printDualPort
  | .unknown => ⟨"Readable attributes: (unknown feature, raw dump)", []⟩

/-! ### Printing -/

/- All of it in 16 bits. -/
def fieldInWindow (offset count : U 16) (f : FeatureField) : Bool :=
  let fieldEnd := (f.off + f.len) % 2 ^ 16
  let winEnd := (offset.val + count.val) % 2 ^ 16
  f.off < winEnd && fieldEnd > offset.val

/-- Where the bytes of a field are taken from; an index can be below the reply. -/
def fieldPtr (offset : U 16) (f : FeatureField) : List ℤ :=
  (List.range f.len).map fun i : ℕ => (f.off : ℤ) - offset.val + i

structure FieldLine where
  name : String
  value : ℕ
  notes : List String

def fieldLine (offset : U 16) (buf : ℤ → Byte) (f : FeatureField) : FieldLine :=
  let v := leVal ((fieldPtr offset f).map buf)
  ⟨f.name, v, f.notes v⟩

structure FeaturePrint where
  heading : String
  lines : List FieldLine
  dump : Bytes

def shownFields (featureId : Vec 16) (offset count : U 16) : List FeatureField :=
  (featureLayout (mbcciFeatureKind featureId.val)).fields.filter (fieldInWindow offset count)

/- `print_feature_payload` goes over the whole reply. -/
def payloadIndices (count : U 16) : List ℤ := (List.range count.val).map fun i : ℕ => (i : ℤ)

def printFeatureData (featureId : Vec 16) (offset count : U 16) (buf : ℤ → Byte) : FeaturePrint :=
  ⟨(featureLayout (mbcciFeatureKind featureId.val)).heading,
   (shownFields featureId offset count).map (fieldLine offset buf),
   (payloadIndices count).map buf⟩

/-- The indices of the reply that are read. -/
def featureReads (featureId : Vec 16) (offset count : U 16) : List ℤ :=
  (shownFields featureId offset count).flatMap (fieldPtr offset) ++ payloadIndices count

/-- Nothing else of the memory has a part in what is printed. -/
theorem printFeatureData_congr (featureId : Vec 16) (offset count : U 16) (buf buf' : ℤ → Byte)
    (h : ∀ i ∈ featureReads featureId offset count, buf i = buf' i) :
    printFeatureData featureId offset count buf = printFeatureData featureId offset count buf' := by
  have hlines : (shownFields featureId offset count).map (fieldLine offset buf) =
      (shownFields featureId offset count).map (fieldLine offset buf') := by
    refine List.map_congr_left fun f hf => ?_
    have hbytes : (fieldPtr offset f).map buf = (fieldPtr offset f).map buf' := by
      refine List.map_congr_left fun i hi => h i ?_
      exact List.mem_append_left _ (List.mem_flatMap.mpr ⟨f, hf, hi⟩)
    simp only [fieldLine, hbytes]
  have hdump : (payloadIndices count).map buf = (payloadIndices count).map buf' :=
    List.map_congr_left fun i hi => h i (List.mem_append_right _ hi)
  simp only [printFeatureData, hlines, hdump]

/-! ### Fields in the window -/

/-- All bytes of the field are among those that were asked for. -/
def FeatureField.Within (f : FeatureField) (offset count : U 16) : Prop :=
  offset.val ≤ f.off ∧ f.off + f.len ≤ offset.val + count.val

/-- `x` is between two bytes of the field. -/
def FeatureField.Cut (f : FeatureField) (x : ℕ) : Prop := f.off < x ∧ x < f.off + f.len

/-- Only the reply is read, and the fields that are in it as a whole are printed. -/
def SafelyPrinted (featureId : Vec 16) (offset count : U 16) : Prop :=
  (∀ i ∈ featureReads featureId offset count, 0 ≤ i ∧ i < count.val) ∧
    ∀ f ∈ (featureLayout (mbcciFeatureKind featureId.val)).fields,
      f ∈ shownFields featureId offset count ↔ f.Within offset count

/-- The window ends at field boundaries or, where its end does not fit 16 bits, begins
behind the start of every field. -/
def WindowClean (offset count : U 16) (f : FeatureField) : Prop :=
  if offset.val + count.val < 2 ^ 16 then ¬ f.Cut offset.val ∧ ¬ f.Cut (offset.val + count.val)
  else f.off < offset.val ∧ ¬ (f.Cut (offset.val + count.val - 2 ^ 16) ∧ f.Cut offset.val)

def FeatureField.Proper (f : FeatureField) : Prop := 0 < f.len ∧ f.off + f.len < 2 ^ 16

theorem featureLayout_proper (kind : FeatureKind) : ∀ f ∈ (featureLayout kind).fields, f.Proper := by
  have hall : ∀ k : FeatureKind, (featureLayout k).fields.all fun f => decide (0 < f.len ∧ f.off + f.len < 2 ^ 16) := by
    intro k
    cases k <;> decide
  intro f hf
  have hf : 0 < f.len ∧ f.off + f.len < 2 ^ 16 := of_decide_eq_true (List.all_eq_true.mp (hall kind) f hf)
  exact hf

theorem fieldInWindow_iff (offset count : U 16) (f : FeatureField) (hf : f.Proper) :
    fieldInWindow offset count f = true ↔
      f.off < (offset.val + count.val) % 2 ^ 16 ∧ offset.val < f.off + f.len := by
  have hend : (f.off + f.len) % 2 ^ 16 = f.off + f.len := Nat.mod_eq_of_lt hf.2
  simp only [fieldInWindow, hend, Bool.and_eq_true, decide_eq_true_eq, gt_iff_lt]

/- A window that ends below 2^16 takes a field it has a byte of; one that wraps takes
only fields that begin below the wrapped end, and those it does not hold. -/
theorem inWindow_iff_within_iff (offset count : U 16) (f : FeatureField) (hf : f.Proper) :
    (fieldInWindow offset count f = true ↔ f.Within offset count) ↔ WindowClean offset count f := by
  obtain ⟨hlen, hend⟩ := hf
  have hoff := offset.isLt
  have hcount := count.isLt
  rw [fieldInWindow_iff offset count f ⟨hlen, hend⟩]
  unfold FeatureField.Within WindowClean FeatureField.Cut
  by_cases hwrap : offset.val + count.val < 2 ^ 16
  · rw [if_pos hwrap, Nat.mod_eq_of_lt hwrap]
    omega
  · have hmod : (offset.val + count.val) % 2 ^ 16 = offset.val + count.val - 2 ^ 16 := by omega
    rw [if_neg hwrap, hmod]
    omega

theorem mem_shownFields (featureId : Vec 16) (offset count : U 16) (f : FeatureField)
    (hf : f ∈ (featureLayout (mbcciFeatureKind featureId.val)).fields) :
    f ∈ shownFields featureId offset count ↔ fieldInWindow offset count f = true := by
  rw [shownFields, List.mem_filter]
  exact and_iff_right hf

theorem fieldPtr_within (offset count : U 16) (f : FeatureField) (h : f.Within offset count) :
    ∀ i ∈ fieldPtr offset f, 0 ≤ i ∧ i < count.val := by
  intro i hi
  obtain ⟨k, hk, rfl⟩ := List.mem_map.mp hi
  have hlt := List.mem_range.mp hk
  obtain ⟨hlow, hhigh⟩ := h
  omega

theorem payloadIndices_within (count : U 16) : ∀ i ∈ payloadIndices count, 0 ≤ i ∧ i < count.val := by
  intro i hi
  obtain ⟨k, hk, rfl⟩ := List.mem_map.mp hi
  have hlt := List.mem_range.mp hk
  omega

/-- For every feature and window: the decoder is safe for those windows that cut no
field, and do not wrap before a field has begun. -/
theorem safelyPrinted_iff (featureId : Vec 16) (offset count : U 16) :
    SafelyPrinted featureId offset count ↔
      ∀ f ∈ (featureLayout (mbcciFeatureKind featureId.val)).fields, WindowClean offset count f := by
  have hproper := featureLayout_proper (mbcciFeatureKind featureId.val)
  constructor
  · intro h f hf
    rw [← inWindow_iff_within_iff offset count f (hproper f hf), ← mem_shownFields featureId offset count f hf]
    exact h.2 f hf
  · intro h
    have hshown : ∀ f ∈ (featureLayout (mbcciFeatureKind featureId.val)).fields,
        f ∈ shownFields featureId offset count ↔ f.Within offset count := by
      intro f hf
      rw [mem_shownFields featureId offset count f hf]
      exact (inWindow_iff_within_iff offset count f (hproper f hf)).mpr (h f hf)
    refine ⟨?_, hshown⟩
    intro i hi
    rcases List.mem_append.mp hi with hi | hi
    · obtain ⟨f, hf, hi⟩ := List.mem_flatMap.mp hi
      have hfields := List.mem_of_mem_filter hf
      exact fieldPtr_within offset count f ((hshown f hfields).mp hf) i hi
    · exact payloadIndices_within count i hi

abbrev spprUuid : Vec 16 :=
  ⟨[0x89, 0x2b, 0xa4, 0x75, 0xfa, 0xd8, 0x47, 0x4e, 0x9d, 0x3e, 0x69, 0x2c, 0x91, 0x75, 0x68, 0xbb], rfl⟩

/-- From offset 5 on the second byte of the sPPR address is the first of the reply: the
byte before the reply is read. -/
theorem sppr_address_cut : (-1 : ℤ) ∈ featureReads spprUuid 5 5 ∧ ¬ SafelyPrinted spprUuid 5 5 := by
  have hread : (-1 : ℤ) ∈ featureReads spprUuid 5 5 := by decide
  refine ⟨hread, ?_⟩
  intro h
  have hlow := (h.1 (-1) hread).1
  omega

end LibCxlmi.Tools
