import Keepalive.Config
import Keepalive.Config.Fault
import Keepalive.Value

/-!
# Settings

A table of settings becomes a configuration field by field, in a fixed order, and the first field that is wrong is reported.
Each field takes the text of its value, whatever the value is, but for the port, which takes numbers as numbers. Fields that
are absent have defaults, but for the host's address.

How deep a value may nest for its text to be taken is not the same for every field, and depends on what runs around the loading
(`Config.Depths`).
-/

namespace Keepalive.Config

/-- How many values may be inside each other, for each field whose value is written and for a document that is read. The limits depend
on what runs around the loading, so that nothing is known of them. -/
class Depths where
  host : Nat
  mac : Nat
  typeId : Nat
  uidLength : Nat
  server : Nat
  port : Nat
  /-- the room of the values of a document -/
  document : Nat

namespace Depths

/-- The limits when nothing else runs. -/
scoped instance alone : Depths where
  host := 992
  mac := 992
  typeId := 991
  uidLength := 991
  server := 993
  port := 991
  document := 986

end Depths

variable [Depths]

/-- The fault of a setting that has no text. -/
def ofTextFault : TextFault → LoadFault
  | .longNumber => .longNumber
  | .tooDeep => .tooDeep

/-- The text of a value that nests no deeper than this, if it has one. -/
def textOf (depth : Nat) (value : Value) : Except LoadFault String := (value.plain depth).mapError ofTextFault

/-- A fault that names a number, unless the number cannot be written. -/
def rejectNumber (fault : ConfigFault) (number : Int) : LoadFault :=
  Numeral.naming number (.rejected fault) .longNumber

/-- The host's address, which must be given. -/
def hostField (entries : Entries) (name : String) : Except LoadFault Address := do
  match entries.get? name with
  | none => throw (.rejected (.missingField name))
  | some value =>
    let text ← textOf Depths.host value
    match Address.ofText text with
    | .ok address => pure address
    | .error _ => throw (.rejected (.badAddress name text))

/-- The characters that may stand between the octets of a hardware address. -/
def separators : List Char := [':', '-', '.']

/-- The octets a hardware address spells: twelve characters apart from separators, in pairs. -/
def macOf? (text : String) : Option Bytes :=
  let clean := text.toList.filter fun c => !separators.contains c
  if clean.length = 12 then Bytes.ofHex? clean else none

/-- The hardware address. -/
def macField (entries : Entries) (name : String) : Except LoadFault Bytes := do
  match entries.get? name with
  | none => pure Heartbeat.defaultMac
  | some value =>
    let text ← textOf Depths.mac value
    match macOf? text with
    | some octets => pure octets
    | none => throw (.rejected (.badMac text))

/-- A number of one octet, in decimal or in hexadecimal. -/
def byteField (depth : Nat) (entries : Entries) (name : String) (standard : Int) : Except LoadFault Int := do
  match entries.get? name with
  | none => pure standard
  | some value =>
    let text ← textOf depth value
    match Numeral.eitherBase? text.toList with
    | none => throw (.rejected (.badInteger name text))
    | some number =>
      if 0 ≤ number ∧ number ≤ 255 then pure number else throw (rejectNumber (.notByte name number) number)

/-- The server's address, of which nothing is asked. -/
def serverField (entries : Entries) (name : String) : Except LoadFault String := do
  match entries.get? name with
  | none => pure ""
  | some value => textOf Depths.server value

/-- The number that a value stands for, if any: a text by its numeral, a truth value as zero or one, and a finite number by its
whole part. -/
def numberOf? : Value → Option Int
  | .text text => Numeral.integer? text.toList
  | .integer number => some number
  | .boolean truth => some (if truth then 1 else 0)
  | .real (.finite negative units) => some (Binary64.truncate negative units)
  | _ => none

/-- The server's port. -/
def portField (entries : Entries) (name : String) (standard : Int) : Except LoadFault Int := do
  match entries.get? name with
  | none => pure standard
  | some (.real (.infinite _)) => throw .infinitePort
  | some value =>
    match numberOf? value with
    | none =>
      let text ← textOf Depths.port value
      throw (.rejected (.badPort name text))
    | some number =>
      if 0 < number ∧ number < 65536 then pure number else throw (rejectNumber (.portRange name number) number)

/-- The configuration of a table of settings. -/
def ofEntries (entries : Entries) : Except LoadFault Config := do
  let host ← hostField entries "host_ip"
  let mac ← macField entries "mac"
  let typeId ← byteField Depths.typeId entries "type_id" Heartbeat.defaultTypeId
  let uidLength ← byteField Depths.uidLength entries "uid_length" Heartbeat.defaultUidLength
  let server ← serverField entries "server_ip"
  let port ← portField entries "drcom_port" defaultPort
  pure ⟨host, mac, typeId, uidLength, server, port⟩

end Keepalive.Config
