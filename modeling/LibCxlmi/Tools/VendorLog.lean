import LibCxlmi.Commands.Logs
import LibCxlmi.Tools.Args

/-!
# get-vendor-log (cmd_logs.c:715-822)

The size of the vendor debug log is taken from the device's list of logs, and the log
is fetched in pieces of 2048 bytes at most, each of which is appended to a file before
the next one is asked for.
-/

namespace LibCxlmi.Tools.VendorLog
open LibCxlmi.Word LibCxlmi.Commands LibCxlmi.Dialogue LibCxlmi.Cci

/-! ### Calls -/

/-- The two library calls come back with the message in the library's reply buffer,
which it decodes if its own result is 0. -/
inductive LogCall where
  | calloc (n : ℕ)
  | getSupportedLogs
  | fopenAppend (path : String)
  | malloc (n : ℕ)
  | getLog (req : GetLogReq)
  | fwrite (d : Bytes)

/- `fwrite` says how many of the bytes it has taken. -/
abbrev LogCall.Answer : LogCall → Type
  | .calloc _ => Bool
  | .getSupportedLogs => VendorReply
  | .fopenAppend _ => Bool
  | .malloc _ => Bool
  | .getLog _ => VendorReply
  | .fwrite _ => ℕ

abbrev LogTool := Program LogCall LogCall.Answer
abbrev LogHistory := History LogCall LogCall.Answer

def vendorDebugLogUuid : Vec 16 :=
  ⟨[0x5e, 0x18, 0x19, 0xd9, 0x11, 0xa9, 0x40, 0x0c, 0x81, 0x1f, 0xd6, 0x07, 0x19, 0x40, 0x3d, 0x86], rfl⟩

def vendorLogChunk : ℕ := 2048

/-! ### The command -/

/- A null pointer is `.inr none`. -/
def fetchSupportedLogs (o : ByteOrder) : LogTool (End ⊕ Option GetSupportedLogsRsp) := do
  let ok ← (ask (LogCall.calloc (8 + maxSupportedLogs * 20)) : LogTool Bool)
  if ok = false then return .inr none
  else do
    let x ← (ask LogCall.getSupportedLogs : LogTool VendorReply)
    if x.rc ≠ 0 then return .inr none
    else
      match getSupportedLogs.decode o x.data with
      | none => return .inl .undefined
      | some rsp => return .inr (some rsp)

/-- The first entry of the log counts; 0 if there is none. -/
def vendorLogSize (rsp : GetSupportedLogsRsp) : ℕ :=
  match rsp.entries.find? fun e => e.uuid = vendorDebugLogUuid.val with
  | some e => e.logSize
  | none => 0

def vendorLogReq (total offset : ℕ) : GetLogReq :=
  ⟨vendorDebugLogUuid, toU32 offset, toU32 (min (total - offset) vendorLogChunk)⟩

/- `.running` is the loop after as many rounds as it was given. -/
def fetchVendorLog (o : ByteOrder) (total : ℕ) : ℕ → ℕ → LogTool End
  | 0, _ => return .running
  | rounds + 1, offset =>
      if offset < total then do
        let req := vendorLogReq total offset
        let x ← (ask (LogCall.getLog req) : LogTool VendorReply)
        if x.rc ≠ 0 then return .returned x.rc
        else
          match (getLog req).decode o x.data with
          | none => return .undefined
          | some buf => do
              let n ← (ask (LogCall.fwrite buf) : LogTool ℕ)
              if n ≠ req.length.val then return .returned (-1)
              else fetchVendorLog o total rounds (u32 (offset + req.length.val))
      else return .returned 0

/-- `-f` may be repeated; the last file counts. -/
def parseVendorLogFile (args : List String) : Option String :=
  (parseOptions (fun opt v _ => if opt = "-f" then some (some v) else none) args none).join

def appendVendorLog (o : ByteOrder) (outfile : String) (total : ℕ) : LogTool End :=
  if total = 0 then return .returned (-1)
  else do
    let opened ← (ask (LogCall.fopenAppend outfile) : LogTool Bool)
    if opened = false then return .returned (-1)
    else do
      let ok ← (ask (LogCall.malloc vendorLogChunk) : LogTool Bool)
      if ok = false then return .returned (-1)
      else fetchVendorLog o total (total + 1) 0

def cmdGetVendorLog (o : ByteOrder) (args : List String) : LogTool End :=
  match parseVendorLogFile args with
  | none => return .returned (-1)
  | some outfile => do
      let r ← fetchSupportedLogs o
      match r with
      | .inl e => return e
      | .inr none => return .returned (-1)
      | .inr (some srsp) => appendVendorLog o outfile (vendorLogSize srsp)

/-! ### What a run shows -/

def requestOf (e : Event LogCall LogCall.Answer) : Option GetLogReq :=
  match e with
  | ⟨.getLog req, _⟩ => some req
  | _ => none

def requests (t : LogHistory) : List GetLogReq := t.filterMap requestOf

/-- What a call adds to the file. -/
def appendedBy (e : Event LogCall LogCall.Answer) : Bytes :=
  match e with
  | ⟨.fwrite d, n⟩ => d.take n
  | _ => []

def appended (t : LogHistory) : Bytes := t.flatMap appendedBy

/-- The device has taken the request. -/
def RequestTaken : Event LogCall LogCall.Answer → Prop
  | ⟨.getLog _, x⟩ => x.rc = 0
  | _ => True

/-- A call that is not the device's has done what it was asked. -/
def LocalOk : Event LogCall LogCall.Answer → Prop
  | ⟨.calloc _, ok⟩ => ok = true
  | ⟨.fopenAppend _, ok⟩ => ok = true
  | ⟨.malloc _, ok⟩ => ok = true
  | ⟨.fwrite d, n⟩ => n = d.length
  | _ => True

/-- The device lists the vendor log with the size it has, and answers a request it takes
with the bytes of the log that were asked for. -/
def ServesLog (o : ByteOrder) (log : Bytes) : Event LogCall LogCall.Answer → Prop
  | ⟨.getSupportedLogs, x⟩ =>
      x.rc = 0 ∧ ∃ rsp, getSupportedLogs.decode o x.data = some rsp ∧ vendorLogSize rsp = log.length
  | ⟨.getLog req, x⟩ => x.rc = 0 → payload x.data = slice log req.offset.val req.length.val
  | _ => True

/-- The requests go from `a` to `b`, each from where the one before it ends. -/
inductive Tiles : ℕ → List GetLogReq → ℕ → Prop where
  | nil (a : ℕ) : Tiles a [] a
  | cons (req : GetLogReq) (rest : List GetLogReq) (b : ℕ) : 0 < req.length.val → req.length.val ≤ 2048 →
      Tiles (req.offset.val + req.length.val) rest b → Tiles req.offset.val (req :: rest) b

/-- How the download from `start` on ends. `refused` is by the device, `failed` by
something on the host. -/
inductive LogDownload (log : Bytes) (size start : ℕ) : LogHistory → End → Prop where
  | complete (t : LogHistory) : (∀ e ∈ t, RequestTaken e) → Tiles start (requests t) size →
      appended t = slice log start (size - start) → LogDownload log size start t (.returned 0)
  | refused (t : LogHistory) (req : GetLogReq) (x : VendorReply) : x.rc ≠ 0 → (∀ e ∈ t, RequestTaken e) →
      Tiles start (requests t ++ [req]) (req.offset.val + req.length.val) → req.offset.val + req.length.val ≤ size →
      appended t = slice log start (req.offset.val - start) →
      LogDownload log size start (t ++ [⟨.getLog req, x⟩]) (.returned x.rc)
  | failed (t : LogHistory) : (∀ e ∈ t, RequestTaken e) → (∃ e ∈ t, ¬ LocalOk e) →
      appended t <+: slice log start (size - start) → LogDownload log size start t (.returned (-1))

theorem Tiles.le_last {a b : ℕ} {reqs : List GetLogReq} {req : GetLogReq} (h : Tiles a (reqs ++ [req]) b) :
    a ≤ req.offset.val := by
  induction reqs generalizing a with
  | nil =>
    cases h
    exact le_rfl
  | cons first reqs ih =>
    cases h with
    | cons _ _ _ hpos hle hrest =>
      have hlast := ih hrest
      omega

theorem slice_split (log : Bytes) (a m b : ℕ) (ham : a ≤ m) (hmb : m ≤ b) :
    slice log a (b - a) = slice log a (m - a) ++ slice log m (b - m) := by
  have hsum : b - a = (m - a) + (b - m) := by omega
  have hmid : a + (m - a) = m := by omega
  rw [hsum, slice_add, hmid]

/-- A piece that was fetched and written goes in front of the rest of the download. -/
theorem LogDownload.piece {log : Bytes} {size : ℕ} {t : LogHistory} {e : End} (req : GetLogReq) (x : VendorReply)
    (hx : x.rc = 0) (hpos : 0 < req.length.val) (hle : req.length.val ≤ 2048)
    (hsize : req.offset.val + req.length.val ≤ size) (h : LogDownload log size (req.offset.val + req.length.val) t e) :
    LogDownload log size req.offset.val
      (⟨.getLog req, x⟩ :: ⟨.fwrite (slice log req.offset.val req.length.val), req.length.val⟩ :: t) e := by
  have hpiece : (slice log req.offset.val req.length.val).take req.length.val =
      slice log req.offset.val (req.offset.val + req.length.val - req.offset.val) := by
    rw [Nat.add_sub_cancel_left, List.take_of_length_le (slice_length log _ _).le]
  have happ : ∀ t, appended (⟨.getLog req, x⟩ ::
      ⟨.fwrite (slice log req.offset.val req.length.val), req.length.val⟩ :: t) =
      slice log req.offset.val (req.offset.val + req.length.val - req.offset.val) ++ appended t := by
    intro t
    rw [← hpiece]
    rfl
  have hok : ∀ t : LogHistory, (∀ e ∈ t, RequestTaken e) → ∀ e ∈ (⟨.getLog req, x⟩ ::
      ⟨.fwrite (slice log req.offset.val req.length.val), req.length.val⟩ :: t : LogHistory), RequestTaken e := by
    intro t ht e he
    rcases List.mem_cons.mp he with rfl | he
    · exact hx
    · rcases List.mem_cons.mp he with rfl | he
      · trivial
      · exact ht e he
  have hstart : req.offset.val ≤ req.offset.val + req.length.val := Nat.le_add_right _ _
  cases h with
  | complete t hreq htiles happended =>
    refine .complete _ (hok _ hreq) (.cons req _ size hpos hle htiles) ?_
    rw [happ, happended, ← slice_split log _ _ _ hstart hsize]
  | refused t last y hy hreq htiles hlast happended =>
    have hmid : req.offset.val + req.length.val ≤ last.offset.val := htiles.le_last
    refine .refused (⟨.getLog req, x⟩ :: ⟨.fwrite _, req.length.val⟩ :: t) last y hy (hok _ hreq)
      (.cons req _ _ hpos hle htiles) hlast ?_
    rw [happ, happended, ← slice_split log _ _ _ hstart hmid]
  | failed t hreq hlocal happended =>
    obtain ⟨e, he, hbad⟩ := hlocal
    refine .failed _ (hok _ hreq) ⟨e, List.mem_cons_of_mem _ (List.mem_cons_of_mem _ he), hbad⟩ ?_
    rw [happ, slice_split log _ _ _ hstart hsize]
    exact List.prefix_append_right_inj _ |>.mpr happended

theorem LogDownload.shortWrite {log : Bytes} {size : ℕ} (req : GetLogReq) (x : VendorReply) (n : ℕ) (hx : x.rc = 0)
    (hn : n ≠ req.length.val) (hsize : req.offset.val + req.length.val ≤ size) :
    LogDownload log size req.offset.val
      [⟨.getLog req, x⟩, ⟨.fwrite (slice log req.offset.val req.length.val), n⟩] (.returned (-1)) := by
  refine .failed _ ?_ ⟨⟨.fwrite (slice log req.offset.val req.length.val), n⟩, by simp, ?_⟩ ?_
  · intro e he
    rcases List.mem_cons.mp he with rfl | he
    · exact hx
    · obtain rfl := List.mem_singleton.mp he
      trivial
  · intro h
    exact hn (h.trans (slice_length log _ _))
  · have hwhole : slice log req.offset.val req.length.val <+: slice log req.offset.val (size - req.offset.val) := by
      rw [slice_split log _ _ _ (Nat.le_add_right _ req.length.val) hsize, Nat.add_sub_cancel_left]
      exact List.prefix_append _ _
    have hpart : appended [⟨.getLog req, x⟩, ⟨.fwrite (slice log req.offset.val req.length.val), n⟩] =
        (slice log req.offset.val req.length.val).take n := List.append_nil _
    rw [hpart]
    exact (List.take_prefix n _).trans hwhole

/-- A call that neither asks for a piece nor writes one. -/
structure Quiet (e : Event LogCall LogCall.Answer) : Prop where
  request : requestOf e = none
  nothing : appendedBy e = []
  ok : RequestTaken e

theorem LogDownload.quiet {log : Bytes} {size start : ℕ} {t : LogHistory} {e : End}
    {first : Event LogCall LogCall.Answer}
    (hq : Quiet first) (h : LogDownload log size start t e) : LogDownload log size start (first :: t) e := by
  have hreqs : ∀ t, requests (first :: t) = requests t := fun t => List.filterMap_cons_none hq.request
  have happ : ∀ t, appended (first :: t) = appended t := by
    intro t
    rw [appended, List.flatMap_cons, hq.nothing]
    rfl
  have hok : ∀ t : LogHistory, (∀ e ∈ t, RequestTaken e) → ∀ e ∈ first :: t, RequestTaken e := fun t ht =>
    List.forall_mem_cons.mpr ⟨hq.ok, ht⟩
  cases h with
  | complete t hreq htiles happended =>
    exact .complete _ (hok t hreq) (by rw [hreqs]; exact htiles) (by rw [happ]; exact happended)
  | refused t last y hy hreq htiles hlast happended =>
    exact .refused (first :: t) last y hy (hok t hreq) (by rw [hreqs]; exact htiles) hlast
      (by rw [happ]; exact happended)
  | failed t hreq hlocal happended =>
    obtain ⟨e, he, hbad⟩ := hlocal
    exact .failed _ (hok t hreq) ⟨e, List.mem_cons_of_mem _ he, hbad⟩ (by rw [happ]; exact happended)

theorem LogDownload.notOpened {log : Bytes} {size start : ℕ} {e : Event LogCall LogCall.Answer} (hq : Quiet e)
    (hbad : ¬ LocalOk e) : LogDownload log size start [e] (.returned (-1)) := by
  have happ : appended [e] = [] := by
    rw [appended, List.flatMap_singleton, hq.nothing]
  exact .failed [e] (by simp [hq.ok]) ⟨e, List.mem_singleton_self e, hbad⟩ (by rw [happ]; exact List.nil_prefix)

end LibCxlmi.Tools.VendorLog
