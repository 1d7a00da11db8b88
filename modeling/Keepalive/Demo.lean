import Keepalive.Environment
import Keepalive.Packet.Traffic

/-!
# A walk through the library

Loads a configuration, from a file if there is one and else from the environment, makes a request for a challenge, reads a
response made up on the spot, and makes three heartbeats. Everything shows in the journal. A reported fault ends the walk with
exit code one; any other goes through.
-/

namespace Keepalive.Demo

/-- The version of the library. -/
def version : String := "0.1.0"

/-- The seed of the response that is made up. -/
def seed : UInt32 := 0x1A2B3C4D

/-- The settings of a host that has neither file nor variables. -/
def mockSettings : Entries := [("host_ip", .text "10.30.22.17"), ("mac", .text "00:11:22:33:44:55")]

variable [Config.Depths]

/-- Settings from the environment, or the made-up ones when a fault in them is reported. -/
def loadVariables (environment : Environment) : Logged LoadFault Config :=
  tryCatch environment.loadSettings fun
    | .rejected _ => do
      Logged.log .warning "未找到 config.toml 或 DRCOM_ 环境变量，使用 Mock 数据"
      Config.load (.table mockSettings)
    | fault => throw fault

/-- The configuration of the walk. -/
def loadConfig (environment : Environment) (path : Path) : Logged LoadFault Config :=
  match environment.files.lookUp path with
  | .error _ => throw .pathTooLong
  | .ok none => loadVariables environment
  | .ok (some _) => do
    Logged.log .info ("发现配置文件: " ++ path.text)
    Config.loadFile environment.files path Config.defaultProfile

/-- The flag of a heartbeat by its number. -/
def flagOf (sequence : Nat) : Flag := if sequence = 0 then .first else .later

/-- Makes a heartbeat and shows it. -/
def beat (config : Config) (seed : UInt32) (sequence : Nat) : Logged Fault Unit := do
  let h ← (Logged.ofExcept
    (Heartbeat.Draft.ofConfig config sequence (flagOf sequence) seed.toNat).check).mapError Fault.field
  let mode ← (Logged.ofExcept h.mode).mapError Fault.checksum
  let packet ← h.send.mapError Fault.checksum
  Logged.log .info ("心跳 #" ++ Numeral.decimal sequence ++ " (" ++ mode.name ++ "): " ++ packet.hex)

/-- Makes heartbeats with these numbers. -/
def beats (config : Config) (seed : UInt32) : List Nat → Logged Fault Unit
  | [] => pure ()
  | sequence :: rest => do
    beat config seed sequence
    beats config seed rest

/-- The walk. -/
def walk (environment : Environment) (path : Path) : Logged Fault Unit := do
  let config ← (loadConfig environment path).mapError Fault.load
  let request ← (Challenge.send 1).mapError Fault.field
  Logged.log .info ("Challenge 请求: " ++ request.hex)
  let response ← (Challenge.Response.receive (Challenge.Response.encode ⟨seed, config.host⟩)).mapError Fault.read
  Logged.log .info ("Seed=" ++ response.seedText ++ " SourceIP=" ++ response.source.dotted)
  beats config response.seed [0, 1, 2]

/-- The walk with its exit code. -/
def run (environment : Environment) (path : Path) : Logged Fault Nat := do
  Logged.log .info ("Drcom-Heartbeat v" ++ version ++ " 示例")
  tryCatch (do walk environment path; pure 0) fun fault =>
    if fault.isReported then do
      Logged.log .error ("运行失败: " ++ fault.message?.getD "")
      pure 1
    else throw fault

end Keepalive.Demo
