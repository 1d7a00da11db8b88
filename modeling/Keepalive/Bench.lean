import Keepalive.Packet.Traffic
import Keepalive.Source

/-!
# Readers on one source

A bench holds a source and the readers made of it. Octets in memory are copied by each reader when it is made, so later
changes of the source do not reach it; a stream is shared, so each reader goes on where the last call on the stream ended.
A change that cannot be made leaves all as it is. Of the readers one is in use; a fresh one takes its place, and one put
aside can be taken up again.
`Bench.run` carries out one step and reports its outcome, the octets it drew and the counter of the current reader.
-/

namespace Keepalive

/-- A source, the reader in use, and the readers put aside, the latest first. -/
structure Bench where
  source : Source
  current : Reader
  past : List Reader
  deriving DecidableEq, Repr

/-- What a reader can be asked to do. -/
inductive Task where
  | read (size : Int) (field : String)
  | skip (size : Int) (field : String)
  /-- takes a packet's code, which must be the one given, or the protocol's when none is -/
  | validate (code : Option Int)
  /-- reads a challenge response -/
  | parse
  deriving DecidableEq, Repr

/-- What a task or a step gives. -/
inductive Answer where
  | bytes (octets : Bytes)
  | skipped
  | code (code : Int)
  | response (response : Challenge.Response)
  | done
  deriving DecidableEq, Repr

namespace Task

/-- The code a task expects. -/
def expectedCode (code : Option Int) : Int := code.getD packetCode

/-- What a task reads. -/
def reading : Task → Reading Answer
  | read size field => Answer.bytes <$> Reader.take size field
  | skip size field => (fun _ => .skipped) <$> Reader.skip size field
  | validate code => (fun _ => .code (expectedCode code)) <$> Reader.code (expectedCode code)
  | parse => Answer.response <$> Challenge.Response.read

end Task

/-- One step on a bench. -/
inductive Step where
  /-- a task for the current reader -/
  | task (task : Task)
  /-- reads a challenge response through a reader made for it -/
  | parseSource
  /-- makes a fresh reader the current one -/
  | newReader
  /-- takes up the reader put aside at a place, if there is one -/
  | resume (place : Nat)
  /-- changes the octets of the source -/
  | change (edit : Edit)
  deriving DecidableEq, Repr

namespace Step

/-- The kind of packet that a step expects, as records name it. -/
def speaker : Step → String
  | task (.validate none) => "DrcomPacket"
  | task (.validate (some _)) => "CustomPacket"
  | _ => Challenge.Response.speaker

/-- The records that a step leaves when it ends in this way. -/
def records (step : Step) : Except Fault Answer → List Record
  | .ok (.response response) => [response.record]
  | .error (.read fault) => fault.records step.speaker
  | _ => []

end Step

/-- What a step did. -/
structure Report where
  outcome : Except Fault Answer
  /-- the records it left -/
  records : List Record
  /-- the octets the step took from the source -/
  drawn : Bytes
  /-- the counter of the current reader after the step -/
  consumed : Nat

namespace Bench

/-- The bench with a first reader on a source. -/
def ofSource (source : Source) : Bench := ⟨source, Reader.onStream source.opened, []⟩

/-- The current reader where its source stands: on a shared stream, where the last call on it ended. -/
def seated (bench : Bench) : Reader :=
  match bench.source with
  | .stream s => { bench.current with stream := s }
  | _ => bench.current

/-- The octets a reader has drawn since it was in an earlier state. -/
def drawnSince (before after : Reader) : Bytes := after.drawn.drop before.drawn.length

/-- One step: its report and the bench after it. -/
def run (bench : Bench) : Step → Report × Bench
  | .task task =>
    let before := bench.seated
    let (outcome, after) := task.reading before
    let outcome := outcome.mapError .read
    (⟨outcome, Step.records (.task task) outcome, drawnSince before after, after.consumed⟩,
      ⟨bench.source.leftAt after.stream, after, bench.past⟩)
  | .parseSource =>
    let (outcome, reader) := Challenge.Response.read (Reader.onStream bench.source.opened)
    let outcome := (outcome.map .response).mapError .read
    (⟨outcome, Step.parseSource.records outcome, reader.drawn, bench.current.consumed⟩,
      ⟨bench.source.leftAt reader.stream, bench.current, reader :: bench.past⟩)
  | .newReader =>
    (⟨.ok .done, [], [], 0⟩, ⟨bench.source, Reader.onStream bench.source.opened, bench.current :: bench.past⟩)
  | .resume place =>
    match bench.past[place]? with
    | some reader =>
      (⟨.ok .done, [], [], reader.consumed⟩, ⟨bench.source, reader, bench.current :: bench.past.eraseIdx place⟩)
    | none => (⟨.ok .done, [], [], bench.current.consumed⟩, bench)
  | .change edit =>
    match bench.source.change edit with
    | .ok source => (⟨.ok .done, [], [], bench.current.consumed⟩, { bench with source })
    | .error fault => (⟨.error (.change fault), [], [], bench.current.consumed⟩, bench)

/-- All steps in order: their reports and the bench at the end. -/
def runAll (bench : Bench) : List Step → List Report × Bench
  | [] => ([], bench)
  | step :: steps =>
    let (report, bench) := bench.run step
    let (reports, bench) := bench.runAll steps
    (report :: reports, bench)

end Bench

end Keepalive
