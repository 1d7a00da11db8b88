import Keepalive.Checksum.Fault
import Keepalive.Config.Fault
import Keepalive.Files
import Keepalive.Packet.Heartbeat
import Keepalive.Source

/-!
# Faults

All that can go wrong, and the families that reported faults fall into: each family but the first lies in another. A fault that
falls into no family ends the work that met it.
-/

namespace Keepalive

/-- A family of reported faults. -/
inductive Family where
  /-- every reported fault -/
  | any
  /-- settings that make no configuration -/
  | config
  /-- packets that cannot be made or read -/
  | protocol
  /-- packets that cannot be read -/
  | read
  | truncated
  | wrongCode
  /-- checksums that cannot be made -/
  | checksum
  | noSuchMode
  | unaligned
  deriving DecidableEq, Repr

/-- The families a family lies in, the nearest first. -/
def Family.above : Family → List Family
  | any => []
  | config => [any]
  | protocol => [any]
  | read => [protocol, any]
  | truncated => [read, protocol, any]
  | wrongCode => [read, protocol, any]
  | checksum => [protocol, any]
  | noSuchMode => [checksum, protocol, any]
  | unaligned => [checksum, protocol, any]

/-- Anything that can go wrong. -/
inductive Fault where
  | load (fault : LoadFault)
  | read (fault : ReadFault)
  | field (fault : FieldFault)
  | checksum (fault : ChecksumFault)
  /-- a number that is no flag's word -/
  | flag (word : Int)
  /-- a variable that cannot be set -/
  | badVariable (fault : VariableFault)
  /-- a file that cannot be put where it should be -/
  | files (fault : FileFault)
  /-- an octet that cannot be replaced -/
  | change (fault : ChangeFault)
  deriving DecidableEq, Repr

namespace Fault

/-- The family of a fault, if it is a reported one. -/
def family? : Fault → Option Family
  | load (.rejected _) => some .config
  | load _ => none
  | read (.truncated ..) => some .truncated
  | read (.wrongCode ..) => some .wrongCode
  | read .oversized => none
  | read .longNumber => none
  | field _ => none
  | checksum (.noSuchMode _) => some .noSuchMode
  | checksum (.unaligned _) => some .unaligned
  | checksum (.wrongSample ..) => some .checksum
  | checksum .longNumber => none
  | flag _ => none
  | badVariable _ => none
  | files _ => none
  | change _ => none

/-- Is the fault a reported one? -/
def isReported (fault : Fault) : Bool := fault.family?.isSome

/-- The wording of a fault, where it has one of its own. -/
def message? : Fault → Option String
  | load fault => fault.message?
  | read fault => fault.message?
  | field fault => some fault.message
  | checksum fault => some fault.message
  | flag word => some (Flag.refusal word)
  | badVariable fault => fault.message?
  | files fault => fault.message?
  | change fault => fault.message?

end Fault

end Keepalive
