import LibCxlmi.Tools.VendorLog

/-!
# Runs of get-vendor-log (cmd_logs.c:715-822)

Each round of the loop adds one piece to the file, so a run that succeeds has the
whole log there, and one that fails has a beginning of it.
-/

namespace LibCxlmi.Tools.VendorLog
open LibCxlmi.Word LibCxlmi.Commands LibCxlmi.Dialogue LibCxlmi.Cci

/-! ### The loop -/

section Loop
variable (o : ByteOrder) (log : Bytes) (total : ℕ) (htotal : total < 2 ^ 32)
include htotal

theorem vendorLogReq_offset (offset : ℕ) (h : offset < total) : (vendorLogReq total offset).offset.val = offset :=
  Nat.mod_eq_of_lt (h.trans htotal)

omit htotal in
theorem vendorLogReq_length (offset : ℕ) : (vendorLogReq total offset).length.val = min (total - offset) 2048 :=
  Nat.mod_eq_of_lt (lt_of_le_of_lt (Nat.min_le_right _ _) (by decide))

omit htotal in
/- The library copies as many bytes as were asked for out of the reply. -/
theorem getLog_decode (req : GetLogReq) (x : VendorReply)
    (h : payload x.data = slice log req.offset.val req.length.val) :
    (getLog req).decode o x.data = some (slice log req.offset.val req.length.val) := by
  show copyOut (payload x.data) 0 req.length.val = _
  rw [h, copyOut, if_pos (by rw [slice_length, Nat.zero_add]), slice_self _ _ (slice_length log _ _)]

/-- From any offset on the loop comes to an end, and has then downloaded the rest, been
refused by the device, or met a failure on the host. -/
theorem fetchVendorLog_download (rounds offset : ℕ) (t : LogHistory) (e : End) (hle : offset ≤ total)
    (hrounds : total - offset < rounds) (hrun : (fetchVendorLog o total rounds offset).Runs t e)
    (hdev : ∀ e ∈ t, ServesLog o log e) : LogDownload log total offset t e := by
  induction rounds generalizing offset t with
  | zero => omega
  | succ rounds ih =>
    rw [fetchVendorLog] at hrun
    by_cases hmore : offset < total
    · rw [if_pos hmore] at hrun
      obtain ⟨x, t, rfl, hrun⟩ := hrun
      have hoff := vendorLogReq_offset total htotal offset hmore
      have hlen := vendorLogReq_length total offset
      generalize hreq : vendorLogReq total offset = req at hrun hoff hlen hdev ⊢
      have hpos : 0 < req.length.val := by omega
      have hle : req.length.val ≤ 2048 := by omega
      have hend : req.offset.val + req.length.val ≤ total := by omega
      change (ite (x.rc ≠ 0) _ _ : LogTool End).Runs t e at hrun
      by_cases hx : x.rc ≠ 0
      · rw [if_pos hx] at hrun
        obtain ⟨rfl, rfl⟩ := hrun
        have hlast : Tiles offset [req] (req.offset.val + req.length.val) := by
          rw [← hoff]
          exact .cons req [] _ hpos hle (.nil _)
        exact .refused [] req x hx (by simp) hlast hend (by rw [hoff, Nat.sub_self]; rfl)
      · rw [if_neg hx] at hrun
        have hzero : x.rc = 0 := not_not.mp hx
        have hbytes := hdev _ List.mem_cons_self hzero
        rw [getLog_decode o log req x hbytes] at hrun
        obtain ⟨n, t, rfl, hrun⟩ := hrun
        change (ite (n ≠ req.length.val) _ _ : LogTool End).Runs t e at hrun
        by_cases hn : n ≠ req.length.val
        · rw [if_pos hn] at hrun
          obtain ⟨rfl, rfl⟩ := hrun
          have hshort := @LogDownload.shortWrite log total req x n hzero hn hend
          rw [hoff] at hshort
          rw [hoff]
          exact hshort
        · rw [if_neg hn] at hrun
          obtain rfl : n = req.length.val := not_not.mp hn
          have hnext : u32 (offset + req.length.val) = req.offset.val + req.length.val := by
            rw [hoff]
            exact Nat.mod_eq_of_lt (by omega)
          rw [hnext] at hrun
          have hrest := ih _ t hend (by omega) hrun fun e he =>
            hdev e (List.mem_cons_of_mem _ (List.mem_cons_of_mem _ he))
          have hpiece := hrest.piece req x hzero hpos hle hend
          rw [hoff] at hpiece
          rw [hoff]
          exact hpiece
    · rw [if_neg hmore] at hrun
      obtain ⟨rfl, rfl⟩ := hrun
      have heq : offset = total := by omega
      subst heq
      exact .complete [] (by simp) (.nil _) (by rw [Nat.sub_self]; rfl)

end Loop

/-! ### The whole command -/

theorem supportedLogEntry_logSize_lt (o : ByteOrder) (r : Bytes) : (supportedLogEntry o r).logSize < 2 ^ 32 := by
  show getLe o 4 r 16 < 2 ^ 32
  rw [getLe_eq]
  have hlt := leVal_lt (slice r 16 4)
  rwa [slice_length] at hlt

theorem vendorLogSize_lt (o : ByteOrder) (data : Bytes) (rsp : GetSupportedLogsRsp)
    (h : getSupportedLogs.decode o data = some rsp) : vendorLogSize rsp < 2 ^ 32 := by
  obtain ⟨es, hes, rfl⟩ := Option.map_eq_some_iff.mp h
  unfold vendorLogSize
  dsimp only
  cases hfind : es.find? fun e => e.uuid = vendorDebugLogUuid.val with
  | none => decide
  | some entry =>
    have hmem := List.mem_of_find?_eq_some hfind
    unfold records at hes
    split_ifs at hes
    obtain rfl := Option.some.inj hes
    obtain ⟨i, -, rfl⟩ := List.mem_map.mp hmem
    exact supportedLogEntry_logSize_lt o _

/-- How the command ends for a log of this size: one without bytes is taken for none. -/
def VendorLogResult (log : Bytes) (t : LogHistory) (e : End) : Prop :=
  (log = [] ∧ requests t = [] ∧ appended t = [] ∧ e = .returned (-1)) ∨
    (log ≠ [] ∧ LogDownload log log.length 0 t e)

theorem appendVendorLog_download (o : ByteOrder) (outfile : String) (log : Bytes) (hlog : log.length < 2 ^ 32)
    (t : LogHistory) (e : End) (hrun : (appendVendorLog o outfile log.length).Runs t e)
    (hdev : ∀ ev ∈ t, ServesLog o log ev) : VendorLogResult log t e := by
  unfold appendVendorLog at hrun
  by_cases hzero : log.length = 0
  · rw [if_pos hzero] at hrun
    obtain ⟨rfl, rfl⟩ := hrun
    exact Or.inl ⟨List.length_eq_zero_iff.mp hzero, rfl, rfl, rfl⟩
  rw [if_neg hzero] at hrun
  refine Or.inr ⟨fun hnil => hzero (by rw [hnil]; rfl), ?_⟩
  obtain ⟨opened, t, rfl, hrun⟩ := hrun
  have hopen : Quiet ⟨.fopenAppend outfile, opened⟩ := ⟨rfl, rfl, trivial⟩
  cases opened with
  | false =>
    obtain ⟨rfl, rfl⟩ := hrun
    exact .notOpened hopen Bool.false_ne_true
  | true =>
    obtain ⟨ok, t, rfl, hrun⟩ := hrun
    have halloc : Quiet ⟨.malloc vendorLogChunk, ok⟩ := ⟨rfl, rfl, trivial⟩
    refine LogDownload.quiet hopen ?_
    cases ok with
    | false =>
      obtain ⟨rfl, rfl⟩ := hrun
      exact .notOpened halloc Bool.false_ne_true
    | true =>
      refine LogDownload.quiet halloc ?_
      refine fetchVendorLog_download o log log.length hlog _ 0 t e (Nat.zero_le _) (Nat.lt_succ_self _) hrun ?_
      exact fun ev hev => hdev ev (List.mem_cons_of_mem _ (List.mem_cons_of_mem _ hev))

/-- For every log and every device that serves it: the pieces asked for tile the log, the
file has got the log, and the command returns 0; or the first refusal is returned and
the file has got what was fetched before it. -/
theorem vendor_log_download (o : ByteOrder) (args : List String) (log : Bytes) (t : LogHistory) (e : End)
    (hargs : (parseVendorLogFile args).isSome = true) (hrun : (cmdGetVendorLog o args).Runs t e)
    (hdev : ∀ ev ∈ t, ServesLog o log ev) : VendorLogResult log t e := by
  obtain ⟨outfile, hfile⟩ := Option.isSome_iff_exists.mp hargs
  simp only [cmdGetVendorLog, hfile] at hrun
  obtain ⟨ok, t, rfl, hrun⟩ := hrun
  have halloc : Quiet ⟨.calloc (8 + maxSupportedLogs * 20), ok⟩ := ⟨rfl, rfl, trivial⟩
  cases ok with
  | false =>
    obtain ⟨rfl, rfl⟩ := hrun
    by_cases hnil : log = []
    · exact Or.inl ⟨hnil, rfl, rfl, rfl⟩
    · exact Or.inr ⟨hnil, .notOpened halloc Bool.false_ne_true⟩
  | true =>
    obtain ⟨x, t, rfl, hrun⟩ := hrun
    obtain ⟨hx, rsp, hdecode, hsize⟩ : ServesLog o log ⟨.getSupportedLogs, x⟩ := hdev _ (by simp)
    have hlist : Quiet ⟨.getSupportedLogs, x⟩ := ⟨rfl, rfl, trivial⟩
    have hgo : ¬ x.rc ≠ 0 := not_not.mpr hx
    change ((ite (x.rc ≠ 0) _ _ : LogTool (End ⊕ Option GetSupportedLogsRsp)).bind _).Runs t e at hrun
    rw [if_neg hgo, hdecode] at hrun
    change (appendVendorLog o outfile (vendorLogSize rsp)).Runs t e at hrun
    have hlog : log.length < 2 ^ 32 := hsize ▸ vendorLogSize_lt o x.data rsp hdecode
    rw [hsize] at hrun
    have hrest := appendVendorLog_download o outfile log hlog t e hrun fun ev hev =>
      hdev ev (List.mem_cons_of_mem _ (List.mem_cons_of_mem _ hev))
    rcases hrest with ⟨hnil, hreqs, happ, hend⟩ | ⟨hne, hdown⟩
    · exact Or.inl ⟨hnil, hreqs, happ, hend⟩
    · exact Or.inr ⟨hne, .quiet halloc (.quiet hlist hdown)⟩

/- One byte more than a piece has. -/
def longLog : Bytes := zeros 2048 ++ [7]

def longLogDevice : (q : LogCall) → q.Answer
  | .calloc _ => true
  | .getSupportedLogs => ⟨0, zeros 12 ++ [1, 0] ++ zeros 6 ++ vendorDebugLogUuid.val ++ [1, 8, 0, 0]⟩
  | .fopenAppend _ => true
  | .malloc _ => true
  | .getLog req => ⟨0, zeros 12 ++ slice longLog req.offset.val req.length.val⟩
  | .fwrite d => d.length

theorem longLogDevice_serves (q : LogCall) : ServesLog .little longLog ⟨q, longLogDevice q⟩ := by
  cases q with
  | getSupportedLogs => exact ⟨rfl, ⟨1, [⟨vendorDebugLogUuid.val, 2049⟩]⟩, by decide, by decide +kernel⟩
  | getLog req => exact fun _ => rfl
  | _ => trivial

def longLogRun : LogHistory × End := (cmdGetVendorLog .little ["-f", "vendor.log"]).play (fun _ => longLogDevice) []

theorem vendor_log_two_pieces :
    (requests longLogRun.1).map (fun req => (req.offset.val, req.length.val)) = [(0, 2048), (2048, 1)] ∧
      longLogRun.2 = .returned 0 ∧ VendorLogResult longLog longLogRun.1 longLogRun.2 := by
  refine ⟨by decide +kernel, by decide +kernel, ?_⟩
  refine vendor_log_download .little ["-f", "vendor.log"] longLog longLogRun.1 longLogRun.2 (by decide)
    (play_runs _ _ _) fun ev hev => ?_
  have hanswer := play_oracle longLogDevice _ _ ev hev
  obtain ⟨q, x⟩ := ev
  obtain rfl : x = longLogDevice q := hanswer
  exact longLogDevice_serves q

end LibCxlmi.Tools.VendorLog
