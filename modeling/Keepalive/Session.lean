import Keepalive.Config.Document
import Keepalive.Packet.Traffic

/-!
# Sessions

A session keeps the configuration loaded last and the challenge received last. Heartbeats are made from both, with the seed of
that challenge unless another is given. A step that fails changes nothing.
-/

namespace Keepalive

/-- What a session goes on with. -/
structure Session where
  config : Option Config
  response : Option Challenge.Response
  deriving DecidableEq, Repr

namespace Session

/-- A session before its first step. -/
def start : Session := ⟨none, none⟩

/-- One step of a session. -/
inductive Step where
  /-- loads settings -/
  | load (settings : Entries)
  /-- takes a configuration as it is -/
  | configure (config : Config)
  /-- makes a request for a challenge -/
  | request (sequence : Int)
  /-- receives a challenge -/
  | receive (data : Bytes)
  /-- makes a heartbeat -/
  | beat (sequence : Int) (flag : Flag) (seed : Option Int)

/-- What a step gives. -/
inductive Answer where
  | config (config : Config)
  | packet (octets : Bytes)
  | response (response : Challenge.Response)
  | heartbeat (heartbeat : Heartbeat) (octets : Bytes)
  /-- a heartbeat without a configuration or a seed -/
  | nothing
  deriving DecidableEq, Repr

/-- The fields of the next heartbeat, if there is a configuration and a seed. -/
def draft? (session : Session) (sequence : Int) (flag : Flag) (seed : Option Int) : Option Heartbeat.Draft := do
  let config ← session.config
  let seed ← seed <|> session.response.map fun response => (response.seed.toNat : Int)
  pure (Heartbeat.Draft.ofConfig config sequence flag seed)

variable [Config.Depths]

/-- What a step gives, before the session goes on with it. -/
def perform (session : Session) : Step → Logged Fault Answer
  | .load settings => Answer.config <$> (Config.load (.table settings)).mapError Fault.load
  | .configure config => pure (.config config)
  | .request sequence => Answer.packet <$> (Challenge.send sequence).mapError Fault.field
  | .receive data => Answer.response <$> (Challenge.Response.receive data).mapError Fault.read
  | .beat sequence flag seed =>
    match session.draft? sequence flag seed with
    | some draft => (fun (h, packet) => .heartbeat h packet) <$> draft.send
    | none => pure .nothing

/-- The session with what a step gave. -/
def keep (session : Session) : Answer → Session
  | .config config => { session with config := some config }
  | .response response => { session with response := some response }
  | _ => session

/-- One step, and the session after it. -/
def run (session : Session) (step : Step) : Logged Fault Answer × Session :=
  let result := session.perform step
  match result.outcome with
  | .ok answer => (result, session.keep answer)
  | .error _ => (result, session)

/-- All steps in order. -/
def runAll (session : Session) : List Step → List (Logged Fault Answer)
  | [] => []
  | step :: steps =>
    let (result, session) := session.run step
    result :: session.runAll steps

end Session

end Keepalive
