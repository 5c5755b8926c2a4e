import LibCxlmi.Tools.WindowCommands

/-!
# The windows of the VU subcommands are closed

For all of them, on both ways to the device, whatever it answers, as long as a
configuration download can compute its number of chunks.
-/

namespace LibCxlmi.Tools
open LibCxlmi.Word LibCxlmi.Dialogue

def VuCommand.tunnelled : VuCommand → Bool
  | .sdbDlcfg | .sdbGetdevcfg | .sdbDdrfreq | .sdbPciespeed => true
  | _ => false

def AllocsSucceed (t : Log) : Prop := ∀ n b, (⟨.calloc n, b⟩ : Event SysCall SysCall.Answer) ∈ t → b = true

/-- The arguments of a configuration download let it divide by its chunk size. -/
def VuCommand.DividesOk (disk : Disk) (args : List String) : VuCommand → Prop
  | .dlcfg => ∀ params, parseVuDlcfgReq args = some params → DivisionOk disk params
  | .sdbDlcfg => ∀ port rest params, sdbArgs args = some (port, rest) → parseVuDlcfgReq rest = some params →
      DivisionOk disk params
  | _ => True

section Commands
variable (o : ByteOrder) (disk : Disk)

theorem windowsKept_refused (k : CallContract) :
    Keeps k (return .returned (-1) : Tool End) (fun e xs => WindowsKept o xs e) [] :=
  keeps_ret k _ _ [] (windowsKept_failed o [] rfl)

theorem keeps_cmdVuOnce (parse : List String → Option VuRequest) (hparse : Requests parse) (retSz : ℕ)
    (args : List String) :
    Keeps (vuContract false) (cmdVuOnce o parse retSz args) (fun e xs => WindowsKept o xs e) [] := by
  unfold cmdVuOnce
  cases hargs : parse args with
  | none => exact windowsKept_refused o _
  | some r => exact keeps_sendOnce o .direct r retSz (hparse args r hargs)

theorem keeps_sdbTunnelVuOnce (parse : List String → Option VuRequest) (hparse : Requests parse)
    (args : List String) :
    Keeps (vuContract true) (sdbTunnelVuOnce o parse args) (fun e xs => WindowsKept o xs e) [] := by
  unfold sdbTunnelVuOnce
  cases hargs : (sdbArgs args).bind fun a => (parse a.2).map fun r => (a.1, r) with
  | none => exact windowsKept_refused o _
  | some p =>
    obtain ⟨a, -, hp⟩ := Option.bind_eq_some_iff.mp hargs
    obtain ⟨r, hr, rfl⟩ := Option.map_eq_some_iff.mp hp
    exact keeps_sendOnce o (.sdb a.1) r 0 (hparse a.2 r hr)

theorem keeps_cmdVuDlpt (args : List String) :
    Keeps (vuContract false) (cmdVuDlpt o disk args) (fun e xs => WindowsKept o xs e) [] := by
  have hfail := windowsKept_refused o (vuContract false)
  unfold cmdVuDlpt
  cases (parseVuDlptReq args).bind disk with
  | none => exact hfail
  | some f =>
    refine keeps_attempt _ _ _ _ _ [] (quiet_fseekEnd _) hfail ?_
    refine keeps_attempt _ _ _ _ _ [] (quiet_ftell _) hfail ?_
    split_ifs
    · exact hfail
    · refine keeps_attempt _ _ _ _ _ [] (quiet_fseekSet _ 0) hfail ?_
      refine keeps_attempt _ _ _ _ _ [] (quiet_fread _ f 0 256) hfail ?_
      exact keeps_sendOnce o .direct (ptupdateRequest _) 0 rfl

theorem keeps_cmdVuDlunion (rounds : ℕ) (args : List String) :
    Keeps (vuContract false) (cmdVuDlunion o disk rounds args) (fun e xs => WindowsKept o xs e) [] := by
  have hfail := windowsKept_refused o (vuContract false)
  unfold cmdVuDlunion
  cases parseVuDlunionReq args with
  | none => exact hfail
  | some params =>
    dsimp only [vuDlunionDownload]
    cases disk params.1 with
    | none => exact hfail
    | some f => exact (windowProof o f params.2.1 params.2.2).keeps_unionDownload rounds

theorem keeps_command (c : VuCommand) (rounds : ℕ) (args : List String) (hdiv : c.DividesOk disk args) :
    Keeps (vuContract c.tunnelled) (c.run o disk rounds args) (fun e xs => WindowsKept o xs e) [] := by
  cases c with
  | evtadd => exact keeps_cmdVuOnce o _ requests_evtadd 0 args
  | eccrmwinj => exact keeps_cmdVuOnce o _ requests_eccrmwinj 0 args
  | ddrdparw => exact keeps_cmdVuOnce o _ requests_ddrdparw 64 args
  | ddrdbt => exact keeps_cmdVuOnce o _ requests_ddrdbt 0 args
  | dimminfo => exact keeps_cmdVuOnce o _ requests_dimminfo 100 args
  | ddrfreq => exact keeps_cmdVuOnce o _ requests_ddrfreq 0 args
  | pciespeed => exact keeps_cmdVuOnce o _ requests_pciespeed 0 args
  | sdbDdrfreq => exact keeps_sdbTunnelVuOnce o _ requests_ddrfreq args
  | sdbPciespeed => exact keeps_sdbTunnelVuOnce o _ requests_pciespeed args
  | dlunion => exact keeps_cmdVuDlunion o disk rounds args
  | dlpt => exact keeps_cmdVuDlpt o disk args
  | dlcfg =>
    dsimp only [VuCommand.run, cmdVuDlcfg]
    cases hargs : parseVuDlcfgReq args with
    | none => exact windowsKept_refused o _
    | some params =>
      exact keeps_vuWindow o .direct _ fun xs h => keeps_vuDlcfgFile o .direct disk params (hdiv params hargs) xs h
  | getdevcfg =>
    dsimp only [VuCommand.run, cmdVuGetdevcfg]
    cases parseVuGetdevcfgReq args with
    | none => exact windowsKept_refused o _
    | some file => exact keeps_vuWindow o .direct _ fun xs h => keeps_vuGetdevcfgFetch o .direct file rounds xs h
  | sdbDlcfg =>
    dsimp only [VuCommand.run, sdbTunnelVuDlcfg]
    cases hargs : (sdbArgs args).bind fun a => (parseVuDlcfgReq a.2).map fun params => (a.1, params) with
    | none => exact windowsKept_refused o _
    | some p =>
      obtain ⟨a, ha, hp⟩ := Option.bind_eq_some_iff.mp hargs
      obtain ⟨params, hparams, rfl⟩ := Option.map_eq_some_iff.mp hp
      exact keeps_vuWindow o (.sdb a.1) _ fun xs h =>
        keeps_vuDlcfgFile o (.sdb a.1) disk params (hdiv a.1 a.2 params ha hparams) xs h
  | sdbGetdevcfg =>
    dsimp only [VuCommand.run, sdbTunnelVuGetdevcfg]
    cases (sdbArgs args).bind fun a => (parseVuGetdevcfgReq a.2).map fun file => (a.1, file) with
    | none => exact windowsKept_refused o _
    | some p =>
      exact keeps_vuWindow o (.sdb p.1) _ fun xs h => keeps_vuGetdevcfgFetch o (.sdb p.1) p.2 rounds xs h

/-! ### A window that is left open -/

theorem play_send_willing (v : Via) (r : VuRequest) (h : Log) : ((v.send o r).play (fun _ => willing) h).2 = 0 := by
  cases v with
  | direct => rfl
  | sdb port => cases o <;> rfl

theorem play_dividing (v : Via) (params : String × U 32 × U 32) (f : File) (hf : disk params.1 = some f)
    (hs : f.size ≠ 0) (hbad : params.2.2 = 0 ∨ 2 ^ 63 ≤ f.size + params.2.2.val) :
    ((vuWindow o v (vuDlcfgFile disk params (v.send o))).play (fun _ => willing) []).2 = .undefined := by
  have hunlock := play_send_willing o v vuunlock []
  rw [vuWindow, v.unlock_eq, play_bind]
  dsimp only
  rw [if_neg (not_not.mpr hunlock), play_bind, vuDlcfgFile, sendFile, hf]
  dsimp only
  rw [if_neg hs, sendOpened, if_pos hbad]
  rfl

theorem willing_allocs {α : Type} (p : Tool α) : AllocsSucceed (p.play (fun _ => willing) []).1 := by
  intro n b hmem
  exact play_oracle willing p [] _ hmem

end Commands

/-- For every VU subcommand, argument list and answer of the device: the windows of
every run are kept, exactly if a configuration download can divide by its chunk size. -/
theorem windows_kept_iff (o : ByteOrder) (disk : Disk) (c : VuCommand) (args : List String) :
    (∀ rounds t e, (c.run o disk rounds args).Runs t e → (c.tunnelled = true → AllocsSucceed t) →
      WindowsKept o (vendorCalls t) e) ↔ c.DividesOk disk args := by
  constructor
  · intro hall
    -- a run against a willing device goes as far as the division
    have hrun : ∀ (v : Via) (params : String × U 32 × U 32),
        c.run o disk 0 args = vuWindow o v (vuDlcfgFile disk params (v.send o)) → DivisionOk disk params := by
      intro v params hrun f hf hs hbad
      have hkept := hall 0 _ _ (play_runs (fun _ => willing) (c.run o disk 0 args) []) fun _ => willing_allocs _
      rw [hrun, play_dividing o disk v params f hf hs hbad] at hkept
      exact hkept
    cases c with
    | dlcfg =>
      intro params hparams
      refine hrun .direct params ?_
      dsimp only [VuCommand.run, cmdVuDlcfg]
      rw [hparams]
      rfl
    | sdbDlcfg =>
      intro port rest params hargs hparams
      refine hrun (.sdb port) params ?_
      dsimp only [VuCommand.run, sdbTunnelVuDlcfg]
      rw [hargs, Option.bind_some, hparams]
      rfl
    | _ => trivial
  · intro hdiv rounds t e hruns halloc
    refine (keeps_sound _ _ _ t e (keeps_command o disk c rounds args hdiv) hruns ⟨fun _ _ _ _ _ => trivial, ?_⟩).2
    intro event hmem _
    obtain ⟨q, a⟩ := event
    cases q with
    | calloc n => exact fun htunnel => halloc htunnel n a hmem
    | _ => trivial

/-- 2^32 is accepted as a chunk size and stored as 0: vu-dlcfg is killed by the
division with the mailbox unlocked. -/
theorem window_left_open :
    ∃ t, (VuCommand.dlcfg.run .little (fun _ => some smallConfig) 0
        ["--input", "cfg.bin", "--cfg-type", "DEV", "--chunk-size", "4294967296"]).Runs t .undefined ∧
      vendorCalls t = [(.vu vuunlock, ⟨0, []⟩)] ∧ windowAfter .little (vendorCalls t) = some true ∧
      ¬WindowsKept .little (vendorCalls t) .undefined := by
  have hargs : parseVuDlcfgReq ["--input", "cfg.bin", "--cfg-type", "DEV", "--chunk-size", "4294967296"] =
      some ("cfg.bin", 1, 0) := by decide +kernel
  dsimp only [VuCommand.run, cmdVuDlcfg]
  rw [hargs]
  have hrun := play_runs (fun _ => willing) (vuWindow .little .direct (vuDlcfgFile (fun _ => some smallConfig)
    ("cfg.bin", 1, 0) (vuDlcfgSendDirect .little))) []
  have hcalls : vendorCalls ((vuWindow .little .direct (vuDlcfgFile (fun _ => some smallConfig) ("cfg.bin", 1, 0)
      (vuDlcfgSendDirect .little))).play (fun _ => willing) []).1 = [(.vu vuunlock, ⟨0, []⟩)] := by decide +kernel
  refine ⟨_, hrun, hcalls, ?_, fun h => h⟩
  rw [hcalls]
  decide +kernel

end LibCxlmi.Tools
