import Keepalive.Proofs.Config.Escapes
import Keepalive.Proofs.Demo.Walk
import Keepalive.Proofs.Environment.Variables

/-!
# The walk without a file

Where there is no file, the variables of the environment decide, and one of three things becomes of them (`run_without_file`). A
configuration is gone on with. Settings that are rejected give way to the made-up ones, just as no settings at all do, and the
journal tells the two apart no more than the exit code. A number that is too long to be named in its refusal ends the walk, and so
does a path that is too long to tell whether a file is there.
-/

namespace Keepalive

open Outcome

namespace Environment

/-- Settings of variables escape the report only with a number that is too long. -/
theorem longNumber_of_unreported [Config.Depths] {e : Environment} {fault : LoadFault} (h : Config.ofEntries e.settings = .error fault)
    (hu : Config.Unreported fault) : fault = .longNumber := by
  obtain ⟨field, -, value, hg, hs⟩ := Config.unreported_ofEntries_iff.mp ⟨h, hu⟩
  obtain ⟨text, rfl⟩ := text_of_settings hg
  cases hs with
  | unwritten hv => nomatch hv
  | far _ _ => rfl

end Environment

namespace Demo

/-! ## Records -/

/-- The warning that the made-up settings are used. -/
def fallbackWarning : Record := ⟨.warning, "未找到 config.toml 或 DRCOM_ 环境变量，使用 Mock 数据"⟩

/-- The configuration of the made-up settings. -/
def mockConfig : Config := ⟨⟨0x0A1E1611⟩, [0x00, 0x11, 0x22, 0x33, 0x44, 0x55], 3, 0, "", 61440⟩

/-- The walk goes on with a configuration after some records. -/
def goOn (start : List Record) (config : Config) : Logged Fault Nat :=
  ⟨start ++ (report (proceed config)).records, (report (proceed config)).outcome⟩

/-! ## Loading -/

/-- The made-up settings are accepted. -/
theorem accepted_mock [Config.Depths] : Config.Accepted mockSettings mockConfig :=
  ⟨rfl, Config.macField_of_text rfl (by decide +kernel), rfl, rfl, rfl, rfl⟩

section

variable [Config.Depths] {e : Environment}

/-- Variables that make a configuration are loaded as it. -/
theorem loadVariables_of_ok {config : Config} (h : e.loadSettings.outcome = .ok config) :
    loadVariables e = ⟨[Config.loaded config], .ok config⟩ := by
  rw [loadVariables, Logged.tryCatch_of_ok h]
  rcases e.loadSettings_cases with hl | hl
  · rw [hl] at h
    nomatch h
  · rw [hl, Config.outcome_load] at h
    rw [hl, Config.load_of_ok h]

/-- Variables that make none leave no record of their own. -/
theorem records_loadSettings_of_error {fault : LoadFault} (h : e.loadSettings.outcome = .error fault) :
    e.loadSettings.records = [] := by
  rcases e.loadSettings_cases with hl | hl
  · rw [hl]
  · rw [hl, Config.outcome_load] at h
    rw [hl, Config.load_of_error h]

/-- A rejection gives way to the made-up settings. -/
theorem loadVariables_of_rejected {cause : ConfigFault} (h : e.loadSettings.outcome = .error (.rejected cause)) :
    loadVariables e = ⟨[fallbackWarning, Config.loaded mockConfig], .ok mockConfig⟩ := by
  have hmock := Config.load_of_ok (Config.ofEntries_eq_ok_iff.mpr accepted_mock)
  rw [loadVariables, Logged.tryCatch_of_error h, records_loadSettings_of_error h, Logged.log_bind, hmock]
  rfl

/-- A fault that is not reported goes through. -/
theorem loadVariables_of_unreported {fault : LoadFault} (h : e.loadSettings.outcome = .error fault)
    (hu : Config.Unreported fault) : loadVariables e = ⟨[], .error fault⟩ := by
  rw [loadVariables, Logged.tryCatch_of_error h, records_loadSettings_of_error h]
  cases fault with
  | rejected cause => exact absurd hu (Config.not_unreported_rejected cause)
  | _ => rfl

/-- The variables are rejected when none has a value and when the settings they hold are. -/
theorem rejected_iff : (∃ cause, e.loadSettings.outcome = .error (.rejected cause)) ↔
    (∀ entry ∈ Environment.settingNames, e.get? entry.2 = none) ∨
      ∃ cause, (Config.load (.table e.settings)).outcome = .error (.rejected cause) := by
  rw [e.loadSettings_eq, ← e.settings_eq_nil_iff]
  by_cases hn : e.settings = []
  · rw [if_pos hn]
    exact ⟨fun _ => .inl hn, fun _ => ⟨.noVariables, rfl⟩⟩
  · rw [if_neg hn]
    exact ⟨.inr, fun h => h.resolve_left hn⟩

end

/-! ## The whole walk -/

section

variable {e : Environment} {path : Path}

/-- Where there is no file, the variables are loaded. -/
theorem loadConfig_of_no_file [Config.Depths] (hfile : e.files.lookUp path = .ok none) : loadConfig e path = loadVariables e := by
  rw [loadConfig, hfile]

/-- Of a path that is too long it cannot be told whether there is a file. -/
theorem loadConfig_of_nameTooLong [Config.Depths] (hfile : e.files.find path = .error .nameTooLong) :
    loadConfig e path = ⟨[], .error .pathTooLong⟩ := by
  rw [loadConfig, Files.lookUp_eq_error_iff.mpr ⟨rfl, hfile⟩]
  rfl

/-- Where nothing is found under a path that is not too long, there is no file. -/
theorem lookUp_of_no_file (hfile : e.file? path = none) (hshort : e.files.find path ≠ .error .nameTooLong) :
    e.files.lookUp path = .ok none := by
  unfold Environment.file? at hfile
  cases hfind : e.files.find path with
  | ok file =>
    rw [hfind] at hfile
    nomatch hfile
  | error fault => exact Files.lookUp_eq_none_iff.mpr ⟨fault, hfind, fun h => hshort (hfind.trans (congrArg _ h))⟩

/-- A configuration that has been loaded is gone on with. -/
theorem run_of_loaded [Config.Depths] {records : List Record} {config : Config} (h : loadConfig e path = ⟨records, .ok config⟩) :
    run e path = goOn (greeting :: records) config := by
  have hload : ((loadConfig e path).mapError Fault.load).outcome = .ok config := by
    rw [h]
    rfl
  have hrecords : ((loadConfig e path).mapError Fault.load).records = records := by
    rw [h]
    rfl
  rw [run_eq, walk_eq, report_bind hload, hrecords]
  rfl

/-- A fault of loading that is not reported goes through. -/
theorem run_of_unreported [Config.Depths] {fault : LoadFault} (h : loadConfig e path = ⟨[], .error fault⟩) (hu : Config.Unreported fault) :
    run e path = ⟨[greeting], .error (.load fault)⟩ := by
  have hwalk : walk e path = ⟨[], .error (.load fault)⟩ := by
    have hload : ((loadConfig e path).mapError Fault.load).outcome = .error (.load fault) := by
      rw [h]
      rfl
    rw [walk_eq, Logged.bind_of_error hload, h]
    rfl
  have hreport : report (walk e path) = ⟨[], .error (.load fault)⟩ := by
    have ho : (walk e path).outcome = .error (.load fault) := by rw [hwalk]
    rw [report_of_unreported ho hu, hwalk]
  rw [run_eq, hreport]

/-- Once there is a configuration, the journal warns of nothing. -/
theorem not_warned_of_report (config : Config) : fallbackWarning ∉ (report (proceed config)).records := by
  have hproceed : fallbackWarning ∉ (proceed config).records := by
    intro hm
    rcases leaves_proceed config _ hm with h | h
    · nomatch h
    · nomatch h
  cases ho : (proceed config).outcome with
  | ok u => rwa [report_of_ok ho]
  | error fault =>
    cases hr : fault.isReported with
    | false => rwa [report_of_unreported ho hr]
    | true =>
      rw [report_of_reported ho hr, List.mem_append, not_or]
      exact ⟨hproceed, fun hm => nomatch List.mem_singleton.mp hm⟩

/-- Going on with a configuration, the journal warns if it has before. -/
theorem warned_of_goOn {start : List Record} {config : Config} :
    fallbackWarning ∈ (goOn start config).records ↔ fallbackWarning ∈ start := by
  rw [goOn, List.mem_append]
  exact ⟨fun h => h.resolve_right (not_warned_of_report config), .inl⟩

/-- A configuration of the variables is gone on with, without a warning. -/
theorem run_of_ok [Config.Depths] (hfile : e.files.lookUp path = .ok none) {config : Config} (h : e.loadSettings.outcome = .ok config) :
    run e path = goOn [greeting, Config.loaded config] config ∧
      (run e path).outcome = (if config.mac.length = macLength then .ok 0 else .error (.field (.macLength config.mac))) ∧
      fallbackWarning ∉ (run e path).records := by
  have ha := Config.ofEntries_eq_ok_iff.mp (Environment.ofEntries_of_loadSettings h fun _ => nofun)
  have hrun : run e path = goOn [greeting, Config.loaded config] config :=
    run_of_loaded ((loadConfig_of_no_file hfile).trans (loadVariables_of_ok h))
  have hstart : fallbackWarning ∉ [greeting, Config.loaded config] := by
    simp [fallbackWarning, greeting, Config.loaded]
  rw [hrun, warned_of_goOn]
  exact ⟨rfl, outcome_report_proceed ha, hstart⟩

/-- Variables that are rejected are passed over, with a warning. -/
theorem run_of_rejected [Config.Depths] (hfile : e.files.lookUp path = .ok none) {cause : ConfigFault}
    (h : e.loadSettings.outcome = .error (.rejected cause)) :
    run e path = goOn [greeting, fallbackWarning, Config.loaded mockConfig] mockConfig ∧ (run e path).outcome = .ok 0 ∧
      fallbackWarning ∈ (run e path).records := by
  have hrun : run e path = goOn [greeting, fallbackWarning, Config.loaded mockConfig] mockConfig :=
    run_of_loaded ((loadConfig_of_no_file hfile).trans (loadVariables_of_rejected h))
  rw [hrun, warned_of_goOn]
  exact ⟨rfl, outcome_report_proceed accepted_mock, List.mem_cons_of_mem _ List.mem_cons_self⟩

end

/-- Where there is no file, three things can become of the variables. A configuration that they make is gone on with, to exit code
zero if its hardware address has six octets; otherwise the fault of the first heartbeat goes through. When they are rejected, the
walk goes on with the made-up settings to exit code zero. A number that is too long goes through as it is. The journal warns
exactly of the made-up settings, and these are used exactly when no variable of a setting has a value or the settings that have
one are rejected. But of a path that is too long it cannot be told that there is no file, and the walk ends there. -/
theorem run_without_file [Config.Depths] (e : Environment) (path : Path) (hfile : e.file? path = none) :
    (e.files.find path = .error .nameTooLong → run e path = ⟨[greeting], .error (.load .pathTooLong)⟩) ∧
    (e.files.find path ≠ .error .nameTooLong →
      (fallbackWarning ∈ (run e path).records ↔
        (∀ entry ∈ Environment.settingNames, e.get? entry.2 = none) ∨
          ∃ cause, (Config.load (.table e.settings)).outcome = .error (.rejected cause)) ∧
      match e.loadSettings.outcome with
      | .ok config => run e path = goOn [greeting, Config.loaded config] config ∧
          (run e path).outcome = if config.mac.length = macLength then .ok 0 else .error (.field (.macLength config.mac))
      | .error (.rejected _) => run e path = goOn [greeting, fallbackWarning, Config.loaded mockConfig] mockConfig ∧
          (run e path).outcome = .ok 0
      | .error fault => fault = .longNumber ∧ run e path = ⟨[greeting], .error (.load .longNumber)⟩) := by
  refine ⟨fun hlong => run_of_unreported (loadConfig_of_nameTooLong hlong) rfl, fun hshort => ?_⟩
  have hnone := lookUp_of_no_file hfile hshort
  rw [← rejected_iff]
  cases ho : e.loadSettings.outcome with
  | ok config =>
    obtain ⟨hrun, hend, hwarned⟩ := run_of_ok hnone ho
    exact ⟨⟨fun hm => absurd hm hwarned, fun ⟨_, h⟩ => nomatch h⟩, hrun, hend⟩
  | error fault =>
    by_cases hu : Config.Unreported fault
    · have hlong : fault = .longNumber := Environment.longNumber_of_unreported
        (Environment.ofEntries_of_loadSettings ho fun cause h => Config.unreported_iff.mp hu cause (Except.error.inj h)) hu
      subst hlong
      have hrun : run e path = ⟨[greeting], .error (.load .longNumber)⟩ :=
        run_of_unreported ((loadConfig_of_no_file hnone).trans (loadVariables_of_unreported ho hu)) hu
      have hwarned : fallbackWarning ∉ [greeting] := by
        simp [fallbackWarning, greeting]
      refine ⟨?_, rfl, hrun⟩
      rw [hrun]
      exact ⟨fun hm => absurd hm hwarned, fun ⟨_, h⟩ => nomatch h⟩
    · cases fault with
      | rejected cause =>
        obtain ⟨hrun, hend, hwarned⟩ := run_of_rejected hnone ho
        exact ⟨⟨fun _ => ⟨cause, rfl⟩, fun _ => hwarned⟩, hrun, hend⟩
      | _ => exact absurd rfl hu

open scoped Config.Depths

/-- An environment whose variables make a configuration. -/
def goodHost : Environment := ⟨[("DRCOM_HOST_IP", "10.0.0.9")], .empty⟩

/-- The configuration of a host that names only its address. -/
def goodConfig : Config := ⟨⟨0x0A000009⟩, [0, 0, 0, 0, 0, 0], 3, 0, "", 61440⟩

/-- With variables that make a configuration the walk goes on with it to exit code zero, and warns of nothing. -/
theorem run_without_file_of_goodHost : goodHost.loadSettings.outcome = .ok goodConfig ∧
    run goodHost Config.filePath = goOn [greeting, Config.loaded goodConfig] goodConfig ∧ (run goodHost Config.filePath).outcome = .ok 0 := by
  have hload : goodHost.loadSettings.outcome = .ok goodConfig := by decide +kernel
  have hfile : goodHost.file? Config.filePath = none := by decide +kernel
  obtain ⟨-, h⟩ := (run_without_file goodHost Config.filePath hfile).2 (by decide +kernel)
  rw [hload] at h
  exact ⟨hload, h⟩

/-- An environment in which a variable has a value that is no address. -/
def badHost : Environment := ⟨[("DRCOM_HOST_IP", "bad")], .empty⟩

/-- With a variable whose value is rejected the walk goes on with the made-up settings, to exit code zero. -/
theorem mock_of_badHost : badHost.get? "DRCOM_HOST_IP" = some "bad" ∧
    badHost.loadSettings.outcome = .error (.rejected (.badAddress "host_ip" "bad")) ∧
    run badHost Config.filePath = goOn [greeting, fallbackWarning, Config.loaded mockConfig] mockConfig ∧
    (run badHost Config.filePath).outcome = .ok 0 := by
  have hload : badHost.loadSettings.outcome = .error (.rejected (.badAddress "host_ip" "bad")) := by decide +kernel
  have hfile : badHost.files.lookUp Config.filePath = .ok none := by decide +kernel
  obtain ⟨hrun, hend, -⟩ := run_of_rejected hfile hload
  exact ⟨rfl, hload, hrun, hend⟩

end Demo

end Keepalive
