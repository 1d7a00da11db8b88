import Keepalive.Packet.Fault
import Keepalive.Stream

/-!
# Reading fields from a stream

A reader takes fields off a stream, each of an exact size, and counts the octets it has taken, those of a field that failed
included. It remembers its calls on the stream (`Reader.drawn` is all that they brought).
-/

namespace Keepalive

/-- A stream, the octets taken from it so far, and the calls that brought them. -/
structure Reader where
  stream : Stream
  consumed : Nat
  calls : List Exchange
  deriving DecidableEq, Repr

/-- Reading that may fail; what was read up to then stays read. -/
abbrev Reading := ExceptT ReadFault (StateM Reader)

namespace Reader

/-- A reader that has read nothing. -/
def onStream (stream : Stream) : Reader := ⟨stream, 0, []⟩

/-- A reader of octets in memory. -/
def ofBytes (data : Bytes) : Reader := onStream (.memory data)

/-- All octets this reader has taken, in order. -/
def drawn (reader : Reader) : Bytes := Exchange.octets reader.calls

/-- The reader after it has called for so many octets. -/
def pull (missing : Nat) (reader : Reader) : Bytes × Reader :=
  let (calls, stream) := reader.stream.pull missing
  let octets := Exchange.octets calls
  (octets, ⟨stream, reader.consumed + octets.length, reader.calls ++ calls⟩)

/-- Exactly so many octets, or the fault that there are fewer or more. -/
def take (size : Int) (field : String) : Reading Bytes := fun reader =>
  if reader.stream.refuses size.toNat then (.error .oversized, reader)
  else
    let (octets, reader) := reader.pull size.toNat
    if (octets.length : Int) = size then (.ok octets, reader)
    else (.error (.short field size octets.length), reader)

/-- Takes so many octets and drops them. -/
def skip (size : Int) (field : String) : Reading Unit := do
  let _ ← take size field

/-- Takes the code of a packet, which must be the one expected. -/
def code (expected : Int) : Reading Unit := do
  let actual := Bytes.ofLittle (← take 1 "code")
  if (actual : Int) ≠ expected then throw (.wrongCode expected actual)

end Reader

end Keepalive
