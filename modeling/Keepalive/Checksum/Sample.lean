import Keepalive.Checksum.Fault
import Keepalive.Digest.Md4
import Keepalive.Digest.Md5
import Keepalive.Digest.Sha1

/-!
# The checksum of a byte string

A mode digests the data and keeps some octets of the digest, in the order of its offsets. An offset beyond the digest keeps
nothing; the checksum exists when exactly eight octets are kept, which the built-in offsets always do.
-/

namespace Keepalive.Mode

/-- The first word of the digest that does not depend on the data. -/
def constantFirst : Nat := 20000711

/-- The second word of the digest that does not depend on the data. -/
def constantSecond : Nat := 126

/-- The digest of a mode. -/
def digest : Mode → Bytes → Bytes
  | constant, _ => Bytes.little 4 constantFirst ++ Bytes.little 4 constantSecond
  | md5, data => Digest.md5 data
  | md4, data => Digest.md4 data
  | sha1, data => Digest.sha1 data

/-- The octets of a digest at a list of offsets, in the order of the list; offsets beyond the digest are passed over. -/
def sample (digest : Bytes) (offsets : List Nat) : Bytes := offsets.filterMap (digest[·]?)

/-- The checksum that keeps the octets at the given offsets. -/
def checksumAt (mode : Mode) (offsets : List Nat) (data : Bytes) : Except ChecksumFault Bytes :=
  let kept := sample (mode.digest data) offsets
  if kept.length = checksumLength then .ok kept else .error (.wrongSample mode kept.length)

/-- The checksum of a mode. -/
def checksum (mode : Mode) (data : Bytes) : Except ChecksumFault Bytes := mode.checksumAt mode.retained data

/-- The mode of a number, or the fault that there is none. -/
def ofNumber (number : Int) : Except ChecksumFault Mode :=
  match ofNumber? number with
  | some mode => .ok mode
  | none => .error (Numeral.naming number (.noSuchMode number) .longNumber)

/-- The mode a challenge seed selects: its remainder by three. -/
def ofSeed (seed : Int) : Except ChecksumFault Mode := ofNumber (seed % 3)

/-- The octets of a mode's digest. -/
def digestLength : Mode → Nat
  | constant => 8
  | md5 => 16
  | md4 => 16
  | sha1 => 20

/-- The length of a digest depends on the mode alone. -/
@[simp] theorem length_digest (mode : Mode) (data : Bytes) : (mode.digest data).length = mode.digestLength := by
  cases mode <;> simp [digest, digestLength]

end Keepalive.Mode
