import LibCxlmi.Tools.InnerReply

/-!
# Runs that return 0

`Reaches` is the dual of `Hears`: there is a run with these replies. Every
subcommand can be led to return 0 by a reply that reads as success, whether it
is whole or not.
-/

namespace LibCxlmi.Tools
open LibCxlmi.Word LibCxlmi.Transport LibCxlmi.Dialogue

/-! ### Runs with given replies -/

/-- A run that ends in `r` and in which the ioctls end as in `xs`. -/
def Reaches {α : Type} (o : ByteOrder) (ep : Endpoint) (p : Tool α) (r : α) (xs : List IoctlResult) : Prop :=
  ∃ t, (onMailbox o ep p).Runs t r ∧ outerReplies t = xs

section Reaches
variable {o : ByteOrder} {ep : Endpoint} {α β : Type} {xs ys : List IoctlResult}

theorem reaches_ret (a : α) : Reaches o ep (pure a : Tool α) a [] := ⟨[], ⟨rfl, rfl⟩, rfl⟩

theorem reaches_bind {p : Tool α} {g : α → Tool β} {a : α} {b : β} (hp : Reaches o ep p a xs)
    (hg : Reaches o ep (g a) b ys) : Reaches o ep (p >>= g) b (xs ++ ys) := by
  obtain ⟨t, ht, rfl⟩ := hp
  obtain ⟨u, hu, rfl⟩ := hg
  refine ⟨t ++ u, ?_, List.filterMap_append⟩
  rw [onMailbox, handle_bind]
  exact (runs_bind _ _ _ _).mpr ⟨t, u, a, rfl, ht, hu⟩

theorem reaches_vendor (m : Message) (n : ℕ) (x : IoctlResult) :
    Reaches o ep (vendorCall m n) (libraryReply o ep m n x) [x] :=
  ⟨[⟨.vendor m n, x⟩], ⟨x, [], rfl, rfl, rfl⟩, rfl⟩

theorem reaches_checked {call : Tool Bool} {failed next : Tool α} {a : α} (hcall : Reaches o ep call true [])
    (hnext : Reaches o ep next a ys) : Reaches o ep (checked call failed next) a ys := by
  exact reaches_bind (g := fun ok => if ok = true then next else failed) hcall hnext

theorem reaches_calloc (n : ℕ) : Reaches o ep (calloc n) true [] :=
  ⟨[⟨.calloc n, true⟩], ⟨true, [], rfl, rfl, rfl⟩, rfl⟩

theorem reaches_fseekEnd : Reaches o ep fseekEnd true [] := ⟨[⟨.fseekEnd, true⟩], ⟨true, [], rfl, rfl, rfl⟩, rfl⟩

theorem reaches_ftell : Reaches o ep ftell true [] := ⟨[⟨.ftell, true⟩], ⟨true, [], rfl, rfl, rfl⟩, rfl⟩

theorem reaches_fseekSet (off : ℕ) : Reaches o ep (fseekSet off) true [] :=
  ⟨[⟨.fseekSet off, true⟩], ⟨true, [], rfl, rfl, rfl⟩, rfl⟩

theorem reaches_fopenWrite (path : String) : Reaches o ep (fopenWrite path) true [] :=
  ⟨[⟨.fopenWrite path, true⟩], ⟨true, [], rfl, rfl, rfl⟩, rfl⟩

theorem reaches_fread (f : File) (pos len : ℕ) (h : pos + len ≤ f.size) : Reaches o ep (f.fread pos len) true [] := by
  refine ⟨[⟨.fread pos len, true⟩], ⟨true, [], rfl, rfl, ?_⟩, rfl⟩
  exact (decide_eq_true h).symm

end Reaches

/-! ### What the subcommands make of a reply that reads as success -/

section Subcommands
variable {o : ByteOrder} {ep : Endpoint} (hep : IsMailbox ep) {x : IoctlResult}

include hep in
theorem reaches_sdbTunnelSend (m : Message) : Reaches o ep (sdbTunnelSend o m) (outerCode o x) [x] := by
  rw [outerCode_eq hep m 16 (Nat.le_refl _) (by decide) x _ rfl]
  exact reaches_bind (reaches_bind (reaches_vendor m 16 x) (reaches_ret _)) (reaches_ret _)

/- A file of one chunk. -/
theorem reaches_sendFile (k : ChunkSender) (disk : Disk) (inputFile : String) (f : File) (chunkSize : U 32)
    (hf : disk inputFile = some f) (hs : f.size ≠ 0) (hle : f.size ≤ chunkSize.val) (rc : ℤ) (hok : k.ok rc = true)
    (hsend : ∀ c, Reaches o ep (k.send c) rc [x]) :
    Reaches o ep (sendFile k disk inputFile chunkSize) (.returned 0) [x] := by
  have hlt := chunkSize.isLt
  have hc : chunkSize ≠ 0 := by
    rintro rfl
    exact hs (Nat.le_zero.mp hle)
  have hcount : chunkCount f.size chunkSize.val = 1 := by
    rw [chunkCount, Nat.div_eq_iff (by omega)]
    omega
  have hchunk : chunkLen f chunkSize.val 0 = f.size := by
    rw [chunkLen_of_lt _ _ _ (by omega), Nat.zero_mul, Nat.sub_zero, Nat.min_eq_left hle]
  unfold sendFile
  rw [hf]
  refine reaches_checked reaches_fseekEnd (reaches_checked reaches_ftell ?_)
  rw [if_neg hs]
  refine reaches_checked (reaches_fseekSet 0) ?_
  rw [sendOpened, if_neg (not_or.mpr ⟨hc, by omega⟩), hcount]
  refine reaches_checked (reaches_calloc _) ?_
  have hround : Reaches o ep (sendChunks k f chunkSize.val 1 1 0 (-1)) 0 [x] := by
    refine reaches_checked (reaches_fread f _ _ ?_) (reaches_bind (hsend _) ?_)
    · rw [Nat.sub_self, hchunk, Nat.zero_add]
    · rw [if_pos hok]
      exact reaches_ret 0
  exact reaches_bind hround (reaches_ret _)

variable (hx : outerCode o x = 0)

include hep hx in
theorem reaches_exchange (port : Byte) (r : VuRequest) (n : ℕ) (hlt : 16 + n < 2 ^ 32) :
    Reaches o ep (sdbVuTunnelExchange o port r n)
      (0, (fillBuf (16 + n) ((libraryReply o ep (.sdbVu port r) (16 + n) x).data.take (16 + n))).drop 16) [x] := by
  refine reaches_checked (reaches_calloc _) (reaches_checked (reaches_calloc _) ?_)
  have hcode := outerCode_eq (o := o) hep (.sdbVu port r) (16 + n) (by omega) hlt x _ rfl
  have hrc : (libraryReply o ep (.sdbVu port r) (16 + n) x).rc = 0 := by
    by_contra hne
    rw [if_pos hne, hx] at hcode
    exact hne hcode.symm
  rw [if_neg (not_not.mpr hrc), hx] at hcode
  refine reaches_bind (reaches_bind (reaches_vendor _ _ x) (reaches_ret _)) ?_
  dsimp only
  rw [if_neg (not_not.mpr hrc), if_neg (not_not.mpr (Int.ofNat_eq_zero.mp hcode.symm)), if_pos hrc]
  exact reaches_ret _

include hep hx in
theorem reaches_send (port : Byte) (r : VuRequest) : Reaches o ep ((Via.sdb port).send o r) 0 [x] :=
  reaches_bind (reaches_exchange hep hx port r 0 (by decide)) (reaches_ret _)

include hep hx in
theorem reaches_vuWindow (port : Byte) (body : Tool End) (hbody : Reaches o ep body (.returned 0) [x]) :
    Reaches o ep (vuWindow o (.sdb port) body) (.returned 0) [x, x, x] := by
  refine reaches_bind (reaches_send hep hx port vuunlock) ?_
  rw [if_neg (not_not.mpr rfl)]
  exact reaches_bind hbody (reaches_bind (reaches_send hep hx port vulock) (reaches_ret _))

/- The request for one piece, answered by a reply without one: it is empty and the last. -/
include hep in
theorem reaches_getdevcfg (port : Byte) (file : String) (out : Bytes) (hlen : out.length < 16)
    (hx : outerCode o (.done 0 out) = 0) :
    Reaches o ep (vuGetdevcfgFetch o (.sdb port) file 1) (.returned 0) [.done 0 out] := by
  have hexchange := reaches_exchange hep hx port (getcfgRequest 0) 520 (by decide)
  rw [libraryReply_eq o ep hep _ _ _ (by decide) (by decide)] at hexchange
  dsimp only at hexchange
  rw [if_neg (not_not.mpr rfl)] at hexchange
  generalize hrsp : List.drop 16 _ = rsp at hexchange
  have hword : ∀ i, i + 4 ≤ 8 → hostWord o rsp i = 0 := by
    intro i hi
    have hslice : slice rsp i 4 = zeros 4 := by
      rw [← hrsp, slice_drop, slice_fillBuf, slice_take _ _ _ _ (by omega), slice_fillBuf,
        slice_take _ _ _ _ (by omega), ← slice_fillBuf 16, fillBuf, slice_append_right _ _ _ _ (by omega),
        slice_zeros]
    rw [hostWord, hslice]
    cases o <;> decide
  refine reaches_checked (reaches_fopenWrite file) ?_
  have hround : Reaches o ep (getcfgRound o (.sdb port) 0) (.inr 0) [.done 0 out] := by
    refine reaches_bind hexchange ?_
    dsimp only
    rw [hword 0 (by decide), hword 4 (by decide)]
    exact reaches_ret _
  have hloop : Reaches o ep (iterate (getcfgRound o (.sdb port)) 1 0) (some 0) [.done 0 out] :=
    reaches_bind hround (reaches_ret _)
  exact reaches_bind hloop (reaches_ret _)

end Subcommands

/-! ### Devices -/

/-- 32 zero bytes in hexadecimal. -/
def zeroFeature : File := ⟨64, fun _ => 0x30, by decide⟩

def cvmeThreshold : SetFeatureParams where
  featureId := ⟨[0x14, 0x78, 0xad, 0x9d, 0xce, 0x00, 0x47, 0x33, 0x9d, 0xb8, 0xf3, 0x92, 0xa4, 0xc2, 0xd0, 0xcc], rfl⟩
  inputFile := "cvme.hex"
  offset := 0
  setFeatureFlags := 0
  version := none

theorem outerCode_zero (o : ByteOrder) (x : IoctlResult) (h : outerCode o x = 0) : ∃ out, x = .done 0 out := by
  cases x with
  | error => exact absurd h (by decide : (-1 : ℤ) ≠ 0)
  | done retval out =>
    rw [outerCode] at h
    split_ifs at h with hrc
    · exact absurd (Fin.ext (Int.ofNat_eq_zero.mp h)) hrc
    · exact ⟨out, by rw [not_not.mp hrc]⟩

section Devices
variable {o : ByteOrder} {ep : Endpoint} (hep : IsMailbox ep) {x : IoctlResult}

include hep in
theorem reaches_transferFw (hok : xferFwOk (outerCode o x) = true) :
    Reaches o ep (sdbTunnelTransferFw o (fun _ => some smallFile) ["--input", "fw.bin", "--slot", "1"]) (.returned 0)
      [x] := by
  have hargs : (sdbArgs ["--input", "fw.bin", "--slot", "1"]).bind (fun a =>
      (parseTransferFwReq a.2).map fun params => (a.1, params)) = some (0, "fw.bin", 1, 1024) := by decide +kernel
  rw [sdbTunnelTransferFw, hargs]
  exact reaches_sendFile _ _ _ smallFile _ rfl (by decide) (by decide) _ hok fun c =>
    reaches_checked (reaches_calloc _) (reaches_sdbTunnelSend hep _)

variable (h0 : outerCode o x = 0)

include hep h0 in
theorem reaches_vuDlcfg :
    Reaches o ep (sdbTunnelVuDlcfg o (fun _ => some smallConfig) ["--input", "cfg.bin", "--cfg-type", "DEV"])
      (.returned 0) [x, x, x] := by
  have hargs : (sdbArgs ["--input", "cfg.bin", "--cfg-type", "DEV"]).bind (fun a =>
      (parseVuDlcfgReq a.2).map fun params => (a.1, params)) = some (0, "cfg.bin", 1, 1024) := by decide +kernel
  rw [sdbTunnelVuDlcfg, hargs]
  exact reaches_vuWindow hep h0 0 _ (reaches_sendFile _ _ _ smallConfig _ rfl (by decide) (by decide) 0 rfl fun c =>
    reaches_send hep h0 0 _)

include hep h0 in
theorem reaches_vuGetdevcfg (hshort : ¬WholeReply x) :
    Reaches o ep (sdbTunnelVuGetdevcfg o 1 ["--output", "cfg.bin"]) (.returned 0) [x, x, x] := by
  have hargs : (sdbArgs ["--output", "cfg.bin"]).bind (fun a =>
      (parseVuGetdevcfgReq a.2).map fun file => (a.1, file)) = some (0, "cfg.bin") := by decide +kernel
  obtain ⟨out, rfl⟩ := outerCode_zero o x h0
  have hlen : out.length < 16 := Nat.not_le.mp fun h => hshort ⟨out, rfl, h⟩
  rw [sdbTunnelVuGetdevcfg, hargs]
  exact reaches_vuWindow hep h0 0 _ (reaches_getdevcfg hep 0 "cfg.bin" out hlen h0)

include hep h0 in
theorem reaches_vuOnce (parse : List String → Option VuRequest) (args : List String) (port : Byte) (r : VuRequest)
    (hargs : (sdbArgs args).bind (fun a => (parse a.2).map fun r => (a.1, r)) = some (port, r)) :
    Reaches o ep (sdbTunnelVuOnce o parse args) (.returned 0) [x, x, x] := by
  rw [sdbTunnelVuOnce, hargs]
  exact reaches_vuWindow hep h0 port _ (reaches_bind (reaches_exchange hep h0 port r 0 (by decide)) (reaches_ret _))

include hep h0 in
theorem reaches_clearEventRecords :
    Reaches o ep (sdbTunnelClearEventRecords o ["--log", "info", "--all"]) (.returned 0) [x] := by
  have hargs : clearEventOptions ["--log", "info", "--all"] ⟨0, none, false, []⟩ =
      some ⟨0, some "info", true, []⟩ := by decide +kernel
  have hlog : parseEventLogLocal "info" = some 0 := by decide +kernel
  rw [sdbTunnelClearEventRecords, hargs, Option.bind_some, Option.bind_some, hlog]
  refine reaches_checked (reaches_calloc _) (reaches_bind (reaches_sdbTunnelSend hep _) ?_)
  rw [h0]
  exact reaches_ret _

/- The size and the version of this feature are documented, so that no table is asked for. -/
include hep h0 in
theorem reaches_setFeature :
    Reaches o ep (sdbTunnelSetFeature o (fun _ => some zeroFeature) 0 cvmeThreshold) (.returned 0) [x] := by
  have hneed : cvmeThreshold.needSf = false := by decide +kernel
  have htable : Reaches o ep (cvmeThreshold.table o 0) (.inr none) [] := by
    rw [SetFeatureParams.table, hneed]
    exact reaches_ret _
  have hrequest : (cvmeThreshold.request o (fun _ => some zeroFeature) none).isSome = true := by
    cases o <;> decide +kernel
  obtain ⟨payload, hpayload⟩ := Option.isSome_iff_exists.mp hrequest
  refine reaches_bind htable ?_
  dsimp only
  rw [hpayload]
  refine reaches_checked (reaches_calloc _) (reaches_bind (reaches_sdbTunnelSend hep _) ?_)
  rw [h0]
  exact reaches_ret _

end Devices

/-- Every subcommand returns 0 to a device that keeps giving a reply that reads as
success. A whole one would tell vu-getdevcfg how much there is to fetch. -/
theorem reaches_success (o : ByteOrder) (ep : Endpoint) (hep : IsMailbox ep) (k : SdbKind) (x : IoctlResult)
    (hok : k.ok (outerCode o x) = true) (hshort : k = .vuGetdevcfg → ¬WholeReply x) :
    ∃ (c : SdbCommand) (disk : Disk) (n : ℕ), c.kind = k ∧
      Reaches o ep (c.run o disk 1) (.returned 0) (List.replicate (n + 1) x) := by
  have hzero : k ≠ .transferFw → outerCode o x = 0 := by
    intro hk
    cases k with
    | transferFw => exact absurd rfl hk
    | _ => exact beq_iff_eq.mp hok
  cases k with
  | transferFw =>
    exact ⟨.transferFw ["--input", "fw.bin", "--slot", "1"], fun _ => some smallFile, 0, rfl,
      reaches_transferFw hep hok⟩
  | vuDlcfg =>
    exact ⟨.vuDlcfg ["--input", "cfg.bin", "--cfg-type", "DEV"], fun _ => some smallConfig, 2, rfl,
      reaches_vuDlcfg hep (hzero (by decide))⟩
  | vuGetdevcfg =>
    exact ⟨.vuGetdevcfg ["--output", "cfg.bin"], fun _ => none, 2, rfl,
      reaches_vuGetdevcfg hep (hzero (by decide)) (hshort rfl)⟩
  | vuDdrfreq =>
    exact ⟨.vuDdrfreq ["--freq", "3200"], fun _ => none, 2, rfl,
      reaches_vuOnce hep (hzero (by decide)) ddrfreqRequest ["--freq", "3200"] 0 (vuDdrfreqPack 3200)
        (by decide +kernel)⟩
  | vuPciespeed =>
    exact ⟨.vuPciespeed ["--pcie-port", "0", "--speed", "gen5", "--width", "x8"], fun _ => none, 2, rfl,
      reaches_vuOnce hep (hzero (by decide)) parseVuPciespeedReq
        ["--pcie-port", "0", "--speed", "gen5", "--width", "x8"] 0 (vuPciespeedPack 0 5 8) (by decide +kernel)⟩
  | clearEventRecords =>
    exact ⟨.clearEventRecords ["--log", "info", "--all"], fun _ => none, 0, rfl,
      reaches_clearEventRecords hep (hzero (by decide))⟩
  | setFeature =>
    exact ⟨.setFeature 0 cvmeThreshold, fun _ => some zeroFeature, 0, rfl,
      reaches_setFeature hep (hzero (by decide))⟩

end LibCxlmi.Tools
