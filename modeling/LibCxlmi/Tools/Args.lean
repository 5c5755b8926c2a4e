import LibCxlmi.Text.Strtoul
import LibCxlmi.Tools.System

/-!
# Argument lists

The option loops of the firmware and VU subcommands, from the argument after the
subcommand's name on. A refused list, for which the functions print a usage or
an error text and return -1, is `none`.
-/

namespace LibCxlmi.Tools
open LibCxlmi.Word LibCxlmi.Text

def toU32 (n : ℕ) : U 32 := Fin.ofNat (2 ^ 32) n

def toU64 (n : ℕ) : U 64 := Fin.ofNat (2 ^ 64) n

/-- Every option takes a value; `store` takes the two or refuses them. -/
def parseOptions {σ : Type} (store : String → String → σ → Option σ) : List String → σ → Option σ
  | [], s => some s
  | [_], _ => none
  | opt :: v :: rest, s =>
      match store opt v s with
      | none => none
      | some s' => parseOptions store rest s'

theorem parseOptions_invariant {σ : Type} (store : String → String → σ → Option σ) (inv : σ → Prop)
    (hstep : ∀ opt v s s', inv s → store opt v s = some s' → inv s') (args : List String) (s s' : σ)
    (hs : inv s) (h : parseOptions store args s = some s') : inv s' := by
  fun_induction parseOptions store args s with
  | case1 s => exact Option.some.inj h ▸ hs
  | case2 x s => cases h
  | case3 opt v rest s hstore => cases h
  | case4 opt v rest s s₁ hstore ih => exact ih (hstep opt v s s₁ hs hstore) h

/-! ### transfer-fw -/

structure TransferFwParams where
  inputFile : Option String
  slot : Option Byte
  chunkSize : U 32
  deriving DecidableEq, Repr

def transferFwOption (opt v : String) (p : TransferFwParams) : Option TransferFwParams :=
  if opt = "--input" then some { p with inputFile := some v }
  else if opt = "--slot" then
    if strtoul v < 1 ∨ 255 < strtoul v then none
    else some { p with slot := some (Fin.ofNat 256 (strtoul v)) }
  else if opt = "--chunk-size" then
    if strtoul v < 128 ∨ strtoul v % 128 ≠ 0 then none
    else some { p with chunkSize := toU32 (strtoul v) }
  else none

/-- The file, the slot and the chunk size. -/
def parseTransferFwReq (args : List String) : Option (String × Byte × U 32) :=
  (parseOptions transferFwOption args ⟨none, none, 1024⟩).bind fun p =>
    p.inputFile.bind fun file => p.slot.map fun slot => (file, slot, p.chunkSize)

/-! ### vu-dlcfg and vu-getdevcfg -/

def parseCfgType (name : String) : Option (U 32) :=
  if name = "DEV" then some 1
  else if name = "DDR" then some 2
  else if name = "PCIE" then some 3
  else none

structure VuDlcfgParams where
  inputFile : Option String
  cfgType : Option (U 32)
  chunkSize : U 32
  deriving DecidableEq, Repr

def vuDlcfgOption (opt v : String) (p : VuDlcfgParams) : Option VuDlcfgParams :=
  if opt = "--input" then some { p with inputFile := some v }
  else if opt = "--cfg-type" then (parseCfgType v).map fun c => { p with cfgType := some c }
  else if opt = "--chunk-size" then
    if strtoul v < 4 ∨ strtoul v % 4 ≠ 0 then none
    else some { p with chunkSize := toU32 (strtoul v) }
  else none

def parseVuDlcfgReq (args : List String) : Option (String × U 32 × U 32) :=
  (parseOptions vuDlcfgOption args ⟨none, none, 1024⟩).bind fun p =>
    p.inputFile.bind fun file => p.cfgType.map fun cfgType => (file, cfgType, p.chunkSize)

def parseVuGetdevcfgReq (args : List String) : Option String :=
  (parseOptions (fun opt v _ => if opt = "--output" then some (some v) else none) args none).join

/-! ### vu-dlunion and vu-dlpt -/

inductive UnionImage where
  | socRtBl2
  | union
  deriving DecidableEq, Repr

inductive UnionPartition where
  | a
  | b
  deriving DecidableEq, Repr

structure VuDlunionParams where
  inputFile : Option String
  image : UnionImage
  partition : Option UnionPartition
  deriving DecidableEq, Repr

def parseImage (v : String) : Option UnionImage :=
  if sameIgnoringCase v "union" ∨ v = "255" then some .union
  else if sameIgnoringCase v "bl2" ∨ v = "1" then some .socRtBl2
  else none

def parsePartition (v : String) : Option UnionPartition :=
  if sameIgnoringCase v "A" ∨ v = "1" then some .a
  else if sameIgnoringCase v "B" ∨ v = "2" then some .b
  else none

def vuDlunionOption (opt v : String) (p : VuDlunionParams) : Option VuDlunionParams :=
  if opt = "--input" then some { p with inputFile := some v }
  else if opt = "--image" then (parseImage v).map fun i => { p with image := i }
  else if opt = "--partition" then (parsePartition v).map fun q => { p with partition := some q }
  else none

/- A union image needs a partition, the other one must not have one. -/
def parseVuDlunionReq (args : List String) : Option (String × UnionImage × Option UnionPartition) :=
  (parseOptions vuDlunionOption args ⟨none, .union, none⟩).bind fun p =>
    p.inputFile.bind fun file =>
      if (p.image = .union ∧ p.partition = none) ∨ (p.image = .socRtBl2 ∧ p.partition ≠ none) then none
      else some (file, p.image, p.partition)

def parseVuDlptReq (args : List String) : Option String :=
  (parseOptions (fun opt v _ => if opt = "--input" then some (some v) else none) args none).join

/-! ### Subcommands that send one VU request -/

def vuDdrfreqPack (freqmts : U 32) : VuRequest := ⟨0x09, 0, 32, 0, freqmts, 0, 0, 0, []⟩

def parseVuDdrfreqReq (args : List String) : Option (U 32) :=
  (parseOptions (fun opt v _ =>
    if opt = "--freq" then
      if strtoul v = 0 ∨ 2 ^ 32 - 1 < strtoul v then none else some (some (toU32 (strtoul v)))
    else none) args none).join

def parsePcieSpeed (name : String) : Option (U 32) :=
  ([("gen1", 1), ("gen2", 2), ("gen3", 3), ("gen4", 4), ("gen5", 5), ("gen6", 6)].find?
    fun e => sameIgnoringCase name e.1).map Prod.snd

def parsePcieWidth (name : String) : Option (U 32) :=
  ([("x1", 1), ("x2", 2), ("x4", 4), ("x8", 8)].find? fun e => sameIgnoringCase name e.1).map Prod.snd

structure VuPciespeedParams where
  portid : Option (U 32)
  speed : Option (U 32)
  width : Option (U 32)
  deriving DecidableEq, Repr

def vuPciespeedOption (opt v : String) (p : VuPciespeedParams) : Option VuPciespeedParams :=
  if opt = "--pcie-port" then
    if 1 < strtoul v then none else some { p with portid := some (toU32 (strtoul v)) }
  else if opt = "--speed" then (parsePcieSpeed v).map fun s => { p with speed := some s }
  else if opt = "--width" then (parsePcieWidth v).map fun w => { p with width := some w }
  else none

def vuPciespeedPack (portid speed width : U 32) : VuRequest := ⟨0x0a, 0, 32, 0, portid, speed, width, 0, []⟩

def parseVuPciespeedReq (args : List String) : Option VuRequest :=
  (parseOptions vuPciespeedOption args ⟨none, none, none⟩).bind fun p =>
    p.portid.bind fun portid => p.speed.bind fun speed => p.width.map fun width =>
      vuPciespeedPack portid speed width

structure VuEvtaddParams where
  loglvl : Option (U 32)
  intfmask : Option (U 32)
  count : Option (U 32)
  deriving DecidableEq, Repr

def vuEvtaddOption (opt v : String) (p : VuEvtaddParams) : Option VuEvtaddParams :=
  if opt = "--loglvl" then some { p with loglvl := some (toU32 (strtoul v)) }
  else if opt = "--intfmask" then some { p with intfmask := some (toU32 (strtoul v)) }
  else if opt = "--count" then some { p with count := some (toU32 (strtoul v)) }
  else none

def parseVuEvtadd (args : List String) : Option VuRequest :=
  (parseOptions vuEvtaddOption args ⟨none, none, none⟩).bind fun p =>
    p.loglvl.bind fun loglvl => p.intfmask.bind fun intfmask => p.count.bind fun count =>
      if 3 < loglvl.val ∨ count = 0 then none
      else some ⟨0x0129, 0, 0, 0, loglvl, intfmask, count, 0, []⟩

/- The conversion has to reach the end of the argument. -/
def wholeNumber (v : String) : Option ℕ :=
  if v = "" ∨ (strtoulEnd v).2 ≠ [] then none else some (strtoul v)

def parseVuDdrdbt (args : List String) : Option VuRequest :=
  (parseOptions (fun opt v _ =>
    if opt = "--enable" then
      (wholeNumber v).bind fun n => if 1 < n then none else some (some (toU32 n))
    else none) args none).join.map fun enable => ⟨0x0132, 0, 0, 0, enable, 0, 0, 0, []⟩

def parseVuDimminfo (args : List String) : Option VuRequest :=
  (parseOptions (fun opt v _ =>
    if opt = "--dimm" then (wholeNumber v).map fun n => some (toU32 n) else none) args none).join.map
    fun dimm => ⟨0x024F, 0, 0, 100, dimm, 0, 0, 0, []⟩

structure VuDdrdparwParams where
  op : Option (U 32)
  dpa : Option ℕ
  pat : U 32
  deriving DecidableEq, Repr

def parseDparwOp (v : String) : Option (U 32) :=
  if sameIgnoringCase v "wr" ∨ v = "0" then some 0
  else if sameIgnoringCase v "rd" ∨ v = "1" then some 1
  else none

def vuDdrdparwOption (opt v : String) (p : VuDdrdparwParams) : Option VuDdrdparwParams :=
  if opt = "--op" then (parseDparwOp v).map fun op => { p with op := some op }
  else if opt = "--dpa" then (wholeNumber v).map fun n => { p with dpa := some n }
  else if opt = "--pat" then (wholeNumber v).map fun n => { p with pat := toU32 n }
  else none

/- Addresses are aligned down to 64 bytes. -/
def alignDown64 (addr : ℕ) : ℕ := addr / 64 * 64

def parseVuDdrdparw (args : List String) : Option VuRequest :=
  (parseOptions vuDdrdparwOption args ⟨none, none, 0xdeadbeef⟩).bind fun p =>
    p.op.bind fun op => p.dpa.map fun dpa =>
      ⟨0x0131, 0, 0, 64, op, toU32 (alignDown64 dpa), toU32 (alignDown64 dpa / 2 ^ 32), p.pat, []⟩

/-! ### vu-eccrmwinj -/

inductive EccMode where
  | none
  | dpa
  | fru
  | rank
  | row
  | cw
  deriving DecidableEq, Repr

structure VuEccrmwinjParams where
  op : Option (U 32)
  unit : U 32
  sel : U 32
  addr : ℕ
  hasRank : Bool
  hasOff : Bool
  hasSel : Bool
  mode : EccMode
  deriving DecidableEq, Repr

def parseEccOp (v : String) : Option (U 32) :=
  if sameIgnoringCase v "clear" ∨ v = "0" then some 0
  else if sameIgnoringCase v "1bit" ∨ v = "1" then some 1
  else if sameIgnoringCase v "cecc" ∨ v = "2" then some 2
  else if sameIgnoringCase v "uecc" ∨ v = "3" then some 3
  else none

def parseU64 (v : String) : Option ℕ :=
  if v = "" ∨ (strtoulEnd v).2 = v.toList ∨ (strtoulEnd v).2 ≠ [] then none else some (strtoul v)

def parseUpTo (bound : ℕ) (v : String) : Option (U 32) :=
  (parseU64 v).bind fun n => if bound < n then none else some (toU32 n)

def vuEccrmwinjOption (opt v : String) (p : VuEccrmwinjParams) : Option VuEccrmwinjParams :=
  if opt = "--op" then (parseEccOp v).map fun op => { p with op := some op }
  else if opt = "--dpa" then
    if p.mode ≠ .none ∨ p.hasRank ∨ p.hasOff ∨ p.hasSel then none
    else (parseU64 v).map fun n => { p with mode := .dpa, addr := n }
  else if opt = "--fru" then
    if p.mode ≠ .none ∨ p.hasRank ∨ p.hasSel then none
    else (parseUpTo 0xFF v).map fun n => { p with mode := .fru, unit := n }
  else if opt = "--rank" then
    if p.hasRank ∨ p.mode = .dpa ∨ p.mode = .fru then none
    else (parseUpTo 0xFF v).map fun n => { p with hasRank := true, unit := n }
  else if opt = "--off" then
    if p.mode = .dpa ∨ p.hasOff ∨ p.hasSel then none
    else (parseU64 v).map fun n => { p with hasOff := true, addr := n }
  else if opt = "--row" ∨ opt = "--codeword" then
    if p.mode ≠ .none ∨ p.hasOff ∨ p.hasSel then none
    else (parseUpTo 0xFFFFFFFF v).map fun n =>
      { p with hasSel := true, mode := if opt = "--row" then .row else .cw, sel := n }
  else none

def eccMode (p : VuEccrmwinjParams) : EccMode :=
  if p.op.isSome ∧ p.hasRank ∧ p.hasOff ∧ p.hasSel = false ∧ p.mode = .none then .rank else p.mode

/- The granularity is in bits 8 to 10 of `arg1`, and bit 4 says that there is one. -/
def eccGran (op gran : U 32) : U 32 := toU32 (0x10 ||| op.val ||| (gran.val <<< 8))

def eccRequest (p : VuEccrmwinjParams) (op : U 32) : Option VuRequest :=
  let addr := alignDown64 p.addr
  match eccMode p with
  | .none => none
  | .dpa =>
      if p.hasRank ∨ p.hasOff ∨ p.hasSel then none
      else some ⟨0x011b, 0, 0, 0, op, toU32 addr, toU32 (addr / 2 ^ 32), 0, []⟩
  | .fru =>
      if p.hasOff = false ∨ p.hasRank ∨ p.hasSel then none
      else some ⟨0x011b, 0, 0, 0, eccGran op 1, toU32 addr, toU32 (addr / 2 ^ 32), p.unit, []⟩
  | .rank => some ⟨0x011b, 0, 0, 0, eccGran op 2, toU32 addr, toU32 (addr / 2 ^ 32), p.unit, []⟩
  | .row | .cw =>
      if p.hasRank = false ∨ p.hasOff then none
      else some ⟨0x011b, 0, 0, 0, eccGran op 3, p.sel, 0, p.unit, []⟩

def parseVuEccrmwinj (args : List String) : Option VuRequest :=
  (parseOptions vuEccrmwinjOption args ⟨none, 0, 0, 0, false, false, false, .none⟩).bind fun p =>
    p.op.bind (eccRequest p)

/-! ### sdb-tunnel -/

def parsePortId (name : String) : Option Byte :=
  if name = "vdm0" then some 0
  else if name = "vdm1" then some 1
  else if name = "i3c" then some 2
  else none

/-- `--port` is taken out of the list; there is room for 16 other arguments. -/
def splitPort : List String → Byte → List String → Option (Byte × List String)
  | [], port, kept => some (port, kept)
  | [x], port, kept => if 16 ≤ kept.length then none else some (port, kept ++ [x])
  | x :: v :: rest, port, kept =>
      if x = "--port" then (parsePortId v).bind fun id => splitPort rest id kept
      else if 16 ≤ kept.length then none
      else splitPort (v :: rest) port (kept ++ [x])

def sdbArgs (args : List String) : Option (Byte × List String) := splitPort args 0 []

end LibCxlmi.Tools
