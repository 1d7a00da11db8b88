import Keepalive.Proofs.Config.Precedence
import Keepalive.Proofs.Demo.Fallback

/-!
# What the walk shows

Wherever its configuration is from, the walk leaves the records of what it shows itself, and between them those of the library, which
are for tracing (`run_of_beats`). It shows where the configuration is from, then one request, the response that it has made up, and
three heartbeats, each as the configuration has it (`Beat`).
-/

namespace Keepalive.Demo

open Outcome Heartbeat

/-! ## Where the configuration is from -/

section

variable [Config.Depths] {e : Environment} {path : Path}

/-- What the walk shows before it has a configuration: the file that it has found, or that it uses the made-up settings. -/
def opening (e : Environment) (path : Path) : List Record :=
  match e.files.lookUp path with
  | .ok (some _) => [⟨.info, "发现配置文件: " ++ path.text⟩]
  | _ =>
    match e.loadSettings.outcome with
    | .error (.rejected _) => [fallbackWarning]
    | _ => []

/-- Where there is a file, it is shown and loaded. -/
theorem loadConfig_of_file {file : File} (hfile : e.files.find path = .ok file) : loadConfig e path =
    ⟨⟨.info, "发现配置文件: " ++ path.text⟩ :: (Config.loadFile e.files path Config.defaultProfile).records,
      (Config.loadFile e.files path Config.defaultProfile).outcome⟩ := by
  rw [loadConfig, Files.lookUp_eq_some_iff.mpr hfile]
  rfl

/-- A configuration that is loaded is one of accepted settings. The walk shows where it is from, and the loading is traced. -/
theorem loadConfig_of_ok {config : Config} (h : (loadConfig e path).outcome = .ok config) :
    loadConfig e path = ⟨opening e path ++ [Config.loaded config], .ok config⟩ ∧ ∃ entries, Config.Accepted entries config := by
  rw [opening]
  cases hlook : e.files.lookUp path with
  | error fault =>
    rw [loadConfig_of_nameTooLong (Files.lookUp_eq_error_iff.mp hlook).2] at h
    nomatch h
  | ok found =>
    cases found with
    | some file =>
      rw [loadConfig_of_file (Files.lookUp_eq_some_iff.mp hlook)] at h ⊢
      obtain ⟨hload, ha⟩ := Config.loadFile_default h
      rw [hload]
      exact ⟨rfl, ha⟩
    | none =>
      rw [loadConfig_of_no_file hlook] at h ⊢
      cases ho : e.loadSettings.outcome with
      | ok loaded =>
        rw [loadVariables_of_ok ho] at h ⊢
        obtain rfl := Except.ok.inj h
        exact ⟨rfl, _, Config.ofEntries_eq_ok_iff.mp (Environment.ofEntries_of_loadSettings ho fun _ => nofun)⟩
      | error fault =>
        by_cases hu : Config.Unreported fault
        · rw [loadVariables_of_unreported ho hu] at h
          nomatch h
        · cases fault with
          | rejected cause =>
            rw [loadVariables_of_rejected ho] at h ⊢
            obtain rfl := Except.ok.inj h
            exact ⟨rfl, _, accepted_mock⟩
          | _ => exact absurd rfl hu

end

/-! ## Heartbeats -/

/-- A heartbeat as the walk makes it: with a number and a flag, of the configuration and the seed of the walk, and its packet. -/
structure Beat (config : Config) (sequence : Nat) (flag : Flag) where
  heartbeat : Heartbeat
  packet : Bytes
  checked : (Draft.ofConfig config sequence flag seed.toNat).check = .ok heartbeat
  mode : heartbeat.mode = .ok .md4
  encoded : heartbeat.encode = .ok packet
  layout : heartbeat.Layout packet
  carries : Config.Carries config packet

namespace Beat

variable {config : Config} {sequence : Nat}

/-- What the walk shows of a heartbeat. -/
def shown {flag : Flag} (b : Beat config sequence flag) : Record :=
  ⟨.info, "心跳 #" ++ Numeral.decimal sequence ++ " (" ++ Mode.md4.name ++ "): " ++ b.packet.hex⟩

/-- A heartbeat is made, which is traced, and shown. -/
theorem beat_eq (b : Beat config sequence (flagOf sequence)) :
    beat config seed sequence = ⟨b.heartbeat.send.records ++ [b.shown], .ok ()⟩ := by
  have hpacket : b.heartbeat.packet = b.packet := Except.ok.inj (b.heartbeat.encode_eq.symm.trans b.encoded)
  rw [beat_of_check b.checked b.mode, hpacket, shown]

/-- There is one such heartbeat at most, with one packet. -/
theorem packet_eq {flag : Flag} (b : Beat config sequence flag) {h : Heartbeat} {packet : Bytes}
    (hc : (Draft.ofConfig config sequence flag seed.toNat).check = .ok h) (he : h.encode = .ok packet) : b.packet = packet := by
  have hsame : b.heartbeat = h := Except.ok.inj (b.checked.symm.trans hc)
  have hencoded := b.encoded
  rw [hsame, he] at hencoded
  exact (Except.ok.inj hencoded).symm

end Beat

/-- A configuration of accepted settings makes every heartbeat of the walk when its hardware address has six octets. -/
theorem exists_beat [Config.Depths] {entries : Entries} {config : Config} (ha : Config.Accepted entries config)
    (hl : config.mac.length = macLength) (sequence : Nat) (hs : sequence ≤ 255) :
    Nonempty (Beat config sequence (flagOf sequence)) := by
  have hbeat := outcome_beat_of_accepted ha seed hs
  rw [if_pos hl, outcome_beat] at hbeat
  obtain ⟨h, hc, -⟩ := map_eq_ok.mp hbeat
  have hchecked := mapError_eq_ok.mp hc
  have hfits := check_eq_ok_iff.mp hchecked
  have hmode : h.mode = .ok .md4 := by
    rw [Heartbeat.mode, ← hfits.seed]
    rfl
  exact ⟨h, h.packet, hchecked, hmode, h.encode_eq, h.layout_packet, Config.carries_packet hfits⟩

/-! ## The records -/

/-- The records of the walk itself. Those of the library are traces: its one warning, that a profile is ignored, never comes with the
standard profile. -/
def own (records : List Record) : List Record := records.filter fun record => record.level != .debug

theorem own_append (first second : List Record) : own (first ++ second) = own first ++ own second := List.filter_append ..

/-- Work that is only traced leaves none of them. -/
theorem own_of_leaves {ε α : Type} {work : Logged ε α} (h : work.Leaves Trace) : own work.records = [] := by
  refine List.filter_eq_nil_iff.mpr fun record hr => ?_
  have htrace : record.level = .debug := h record hr
  simp [htrace]

/-- The walk shows of itself where the configuration is from. -/
theorem own_opening [Config.Depths] (e : Environment) (path : Path) : own (opening e path) = opening e path := by
  unfold opening
  split
  · rfl
  · split
    · rfl
    · rfl

/-- Where the configuration is from is no error. -/
theorem not_error_of_opening [Config.Depths] {e : Environment} {path : Path} {record : Record} (h : record ∈ opening e path) :
    record.level ≠ .error := by
  unfold opening at h
  split at h
  · rw [List.mem_singleton.mp h]
    nofun
  · split at h
    · rw [List.mem_singleton.mp h]
      nofun
    · nomatch h

section

variable {config : Config} (first : Beat config 0 .first) (second : Beat config 1 .later) (third : Beat config 2 .later)

/-- The heartbeats of the walk are shown in their order, each behind its traces. -/
theorem beats_eq : beats config seed [0, 1, 2] = ⟨first.heartbeat.send.records ++ [first.shown] ++
    (second.heartbeat.send.records ++ [second.shown] ++ (third.heartbeat.send.records ++ [third.shown])), .ok ()⟩ := by
  have hlast : beats config seed [2] = ⟨third.heartbeat.send.records ++ [third.shown], .ok ()⟩ := by
    rw [beats_cons third.beat_eq]
    exact congrArg (Logged.mk · _) (List.append_nil _)
  rw [beats_cons first.beat_eq, beats_cons second.beat_eq, hlast]
  rfl

/-- With its heartbeats the walk ends with exit code zero, and the whole journal is where the configuration is from, the request, the
response and the heartbeats, each behind its traces. -/
theorem run_of_beats [Config.Depths] {e : Environment} {path : Path} (h : (loadConfig e path).outcome = .ok config) : run e path =
    ⟨greeting :: (opening e path ++ [Config.loaded config]) ++ ((Challenge.send 1).records ++
      asked :: ((Challenge.Response.receive (Challenge.Response.encode ⟨seed, config.host⟩)).records ++
        told config :: (first.heartbeat.send.records ++ [first.shown] ++ (second.heartbeat.send.records ++ [second.shown] ++
          (third.heartbeat.send.records ++ [third.shown]))))), .ok 0⟩ := by
  have hproceed := proceed_eq config
  rw [beats_eq first second third] at hproceed
  have hdone : (proceed config).outcome = .ok () := by rw [hproceed]
  rw [run_of_loaded (loadConfig_of_ok h).1, goOn, report_of_ok hdone, hproceed]

/-- The walk itself shows where the configuration is from, the request, the response and its heartbeats. -/
theorem own_run [Config.Depths] {e : Environment} {path : Path} (h : (loadConfig e path).outcome = .ok config) :
    own (run e path).records = greeting :: opening e path ++ [asked, told config, first.shown, second.shown, third.shown] := by
  have hsent : ∀ h : Heartbeat, own h.send.records = [] := fun h => own_of_leaves (leaves_send h)
  have hloaded : own [Config.loaded config] = [] := rfl
  have hcons : ∀ (text : String) (records : List Record), own (⟨.info, text⟩ :: records) = ⟨.info, text⟩ :: own records :=
    fun _ _ => rfl
  rw [run_of_beats first second third h]
  simp only [List.cons_append, own_append, own_opening, hloaded, own_of_leaves (leaves_request 1), own_of_leaves (leaves_receive _),
    hsent, List.nil_append, List.append_nil, greeting, asked, told, Beat.shown, hcons]
  rfl

end

/-- The request with the number one is eight octets, which are shown in hexadecimal. -/
theorem asked_eq : Challenge.Request.encode ⟨1⟩ = [0x07, 0x01, 0x08, 0x00, 0x01, 0x00, 0x00, 0x00] ∧
    asked = ⟨.info, "Challenge 请求: 0701080001000000"⟩ := by
  decide +kernel

/-- Whatever the file and the variables are, with a configuration of six octets of hardware address the walk ends with exit code zero
and leaves no error. The response that it makes up is read back with its seed and the host's address. It shows where the configuration
is from, the request with the number one, which is these eight octets, the response, and then the three heartbeats of the
configuration with the numbers 0, 1 and 2, of which the first is flagged as the first and the others as later ones. Their checksums are
in the mode of MD4, and their packets carry the configuration. The four packets can be read back from what is shown of them. -/
theorem run_with_config [Config.Depths] (e : Environment) (path : Path) (config : Config)
    (hload : (loadConfig e path).outcome = .ok config) (hmac : config.mac.length = macLength) :
    (run e path).outcome = .ok 0 ∧ (∀ record ∈ (run e path).records, record.level ≠ .error) ∧
    Challenge.Response.ofBytes (Challenge.Response.encode ⟨seed, config.host⟩) = .ok ⟨seed, config.host⟩ ∧
    (Challenge.Request.encode ⟨1⟩ = [0x07, 0x01, 0x08, 0x00, 0x01, 0x00, 0x00, 0x00] ∧
      asked = ⟨.info, "Challenge 请求: 0701080001000000"⟩) ∧
    ∃ (first : Beat config 0 .first) (second : Beat config 1 .later) (third : Beat config 2 .later),
      own (run e path).records =
        greeting :: opening e path ++ [asked, told config, first.shown, second.shown, third.shown] ∧
      ∀ packet ∈ [Challenge.Request.encode ⟨1⟩, first.packet, second.packet, third.packet],
        Bytes.ofHex? packet.hex.toList = some packet := by
  obtain ⟨-, entries, ha⟩ := loadConfig_of_ok hload
  obtain ⟨first⟩ := exists_beat ha hmac 0 (by decide)
  obtain ⟨second⟩ := exists_beat ha hmac 1 (by decide)
  obtain ⟨third⟩ := exists_beat ha hmac 2 (by decide)
  have hown := own_run first second third hload
  refine ⟨?_, ?_, Challenge.Response.ofBytes_encode _, asked_eq, first, second, third, hown, fun packet _ => Bytes.ofHex?_hex packet⟩
  · rw [run_of_beats first second third hload]
  · -- an error would be a record of the walk itself
    intro record hr he
    have hm : record ∈ own (run e path).records := List.mem_filter.mpr ⟨hr, by rw [he]; rfl⟩
    rw [hown, List.cons_append, List.mem_cons, List.mem_append] at hm
    rcases hm with rfl | hm | hm
    · nomatch he
    · exact not_error_of_opening hm he
    · simp only [List.mem_cons, List.not_mem_nil, or_false] at hm
      rcases hm with rfl | rfl | rfl | rfl | rfl
      · nomatch he
      · nomatch he
      · nomatch he
      · nomatch he
      · nomatch he

open scoped Config.Depths

/-- The text of a file that names a host's two addresses. -/
def hostText : String := "host_ip='10.0.0.9'\nmac='00-11-22-33-44-5F'\n"

/-- The settings in the file. -/
def hostSettings : Entries := [("host_ip", .text "10.0.0.9"), ("mac", .text "00-11-22-33-44-5F")]

/-- An environment with this file and with a variable that would be rejected. -/
def hostFile : Environment :=
  ⟨[("DRCOM_HOST_IP", "bad")], ⟨[(⟨.above 0, ["config.toml"]⟩, .content (Text.utf8 hostText))]⟩⟩

/-- The configuration in the file. -/
def hostConfig : Config := { host := ⟨0x0A000009⟩, mac := [0x00, 0x11, 0x22, 0x33, 0x44, 0x5F] }

/-- The heartbeats of the configuration. -/
def hostBeat (sequence : UInt8) (flag : Flag) : Heartbeat := ⟨sequence, ⟨0x0A000009⟩, flag, seed, 3, 0, ⟨hostConfig.mac, rfl⟩⟩

/-- The packets of the heartbeats, with their number and the octet that tells their flag. -/
def hostPacket (sequence flag : UInt8) : Bytes :=
  [0x07, sequence, 0x60, 0x00, 0x03, 0x00, 0x00, 0x11, 0x22, 0x33, 0x44, 0x5F, 0x0A, 0x00, 0x00, 0x09, 0x00, flag, 0x00, 0x2A] ++
    ([0x4D, 0x3C, 0x2B, 0x1A, 0xB5, 0xAB, 0x1E, 0xBF, 0x67, 0xC1, 0x2C, 0x0A] ++ Bytes.zeros 64)

/-- The octets of the packets behind their checksums, in hexadecimal. -/
def hostPadding : String := String.ofList (List.replicate 128 '0')

set_option maxRecDepth 2000 in
/-- With the file the walk ends with exit code zero and shows the file, the request, the response and three heartbeats. -/
theorem run_with_config_of_hostFile : (loadConfig hostFile Config.filePath).outcome = .ok hostConfig ∧
    hostConfig.mac.length = macLength ∧ (run hostFile Config.filePath).outcome = .ok 0 ∧
    own (run hostFile Config.filePath).records =
      [⟨.info, "Drcom-Heartbeat v0.1.0 示例"⟩, ⟨.info, "发现配置文件: config.toml"⟩, ⟨.info, "Challenge 请求: 0701080001000000"⟩,
        ⟨.info, "Seed=0x1a2b3c4d SourceIP=10.0.0.9"⟩,
        ⟨.info, "心跳 #0 (MD4): 07006000030000112233445f0a0000090062002a4d3c2b1ab5ab1ebf67c12c0a" ++ hostPadding⟩,
        ⟨.info, "心跳 #1 (MD4): 07016000030000112233445f0a0000090063002a4d3c2b1ab5ab1ebf67c12c0a" ++ hostPadding⟩,
        ⟨.info, "心跳 #2 (MD4): 07026000030000112233445f0a0000090063002a4d3c2b1ab5ab1ebf67c12c0a" ++ hostPadding⟩] := by
  have hfile : hostFile.files.find Config.filePath = .ok (.content (Text.utf8 hostText)) := rfl
  have hparsed : Toml.document Config.Depths.document hostText = .ok hostSettings := by cbv
  have hdocument := Config.documentOf_eq_ok_iff.mp (Config.documentOf_of_text hfile hparsed)
  have hmac : Config.macOf? "00-11-22-33-44-5F" = some hostConfig.mac := by decide +kernel
  have hprofile : hostSettings.get? "profile" = none := rfl
  have hsection : hostSettings.get? "drcom" = none := rfl
  have haccepted : (Config.load (.table hostSettings)).outcome = .ok hostConfig :=
    Config.load_eq_ok_iff.mpr ⟨rfl, Config.macField_of_text rfl hmac, rfl, rfl, rfl, rfl⟩
  have hload : (loadConfig hostFile Config.filePath).outcome = .ok hostConfig := by
    rw [loadConfig_of_file hfile, Config.loadFile_of_document hdocument, Config.loadDocument_of_root hprofile hsection]
    dsimp only
    exact haccepted
  have hopening : opening hostFile Config.filePath = [⟨.info, "发现配置文件: config.toml"⟩] := by
    rw [opening, Files.lookUp_eq_some_iff.mpr hfile]
    rfl
  obtain ⟨hend, -, -, ⟨-, hasked⟩, first, second, third, hown, -⟩ := run_with_config hostFile Config.filePath hostConfig hload rfl
  have hfirst : first.packet = hostPacket 0 0x62 := first.packet_eq (h := hostBeat 0 .first) rfl (by decide +kernel)
  have hsecond : second.packet = hostPacket 1 0x63 := second.packet_eq (h := hostBeat 1 .later) rfl (by decide +kernel)
  have hthird : third.packet = hostPacket 2 0x63 := third.packet_eq (h := hostBeat 2 .later) rfl (by decide +kernel)
  refine ⟨hload, rfl, hend, ?_⟩
  rw [hown, hopening, hasked, Beat.shown, Beat.shown, Beat.shown, hfirst, hsecond, hthird]
  decide +kernel

end Keepalive.Demo
