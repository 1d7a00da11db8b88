import Keepalive.Checksum.Fold
import Keepalive.Checksum.Sample
import Keepalive.Packet.Challenge

/-!
# The heartbeat

A session is kept alive by heartbeats of ninety-six octets: a header of four, a content of twenty, eight octets of checksum
and sixty-four zeros. All words are sent with the least significant octet first, but for the address: this is the order of the
machines the library is for, and no other is described. The seed selects the mode of the checksum; without a digest the checksum
folds the header, the content and the constant digest into one word and multiplies it.

`Heartbeat.Draft` holds fields not yet checked, and `Heartbeat.Draft.check` names the first of them that is wrong.
-/

namespace Keepalive

/-- The place of a heartbeat in its session. -/
inductive Flag where
  /-- the first heartbeat of a session -/
  | first
  /-- any later one -/
  | later
  deriving DecidableEq, Repr

namespace Flag

/-- The word that is sent for a flag. -/
def word : Flag → Nat
  | first => 0x2A006200
  | later => 0x2A006300

/-- The name of a flag in messages. -/
def name : Flag → String
  | first => "FIRST"
  | later => "NOT_FIRST"

/-- The flag of a word. -/
def ofWord? (word : Int) : Option Flag :=
  if word = first.word then some first else if word = later.word then some later else none

/-- The wording of the refusal of a number that is no flag's word. -/
def refusal (word : Int) : String :=
  Numeral.naming word (Numeral.decimal word ++ " is not a valid HeartbeatFlag") Numeral.limitWording

/-- A flag is the flag of its word, and of no other. -/
theorem ofWord?_eq_some_iff (n : Int) (flag : Flag) : ofWord? n = some flag ↔ n = flag.word := by
  unfold ofWord?
  constructor
  · intro h
    split at h
    · simp_all
    · split at h <;> simp_all
  · rintro rfl
    cases flag <;> simp [word]

end Flag

/-- The octets of a hardware address. -/
def macLength : Nat := 6

/-- A hardware address. -/
structure Mac where
  bytes : Bytes
  length_bytes : bytes.length = macLength
  deriving DecidableEq, Repr

/-- What a heartbeat says. -/
structure Heartbeat where
  sequence : UInt8
  source : Address
  flag : Flag
  seed : UInt32
  typeId : UInt8
  uidLength : UInt8
  mac : Mac
  deriving DecidableEq, Repr

namespace Heartbeat

/-- The octets of the header. -/
def headerLength : Nat := 4

/-- The octets of the content. -/
def contentLength : Nat := 20

/-- The zeros at the end. -/
def paddingLength : Nat := 16 * 4

/-- The octets of the checksum and the zeros after it. -/
def footerLength : Nat := checksumLength + paddingLength

/-- The octets of a heartbeat. -/
def length : Nat := headerLength + contentLength + footerLength

/-- The type of a heartbeat that names none. -/
def defaultTypeId : Nat := 3

/-- The length of the user name of a heartbeat that names none. -/
def defaultUidLength : Nat := 0

/-- The hardware address of a heartbeat that names none. -/
def defaultMac : Bytes := Bytes.zeros macLength

/-- The factor of the checksum without a digest. -/
def multiplier : Nat := 19680126

/-- Fields that have not been checked. -/
structure Draft where
  sequence : Int
  source : Address.Form
  flag : Flag
  seed : Int
  typeId : Int := defaultTypeId
  uidLength : Int := defaultUidLength
  mac : Bytes := defaultMac
  deriving DecidableEq, Repr

/-- A seed is a word of thirty-two bits. -/
def seedField (value : Int) : Except FieldFault UInt32 :=
  if 0 ≤ value ∧ value < UInt32.size then .ok (UInt32.ofNat value.toNat)
  else .error (Numeral.naming value (.seedRange value) .longNumber)

/-- A hardware address has six octets. -/
def macField (octets : Bytes) : Except FieldFault Mac :=
  if h : octets.length = macLength then .ok ⟨octets, h⟩ else .error (.macLength octets)

/-- The address of a heartbeat. -/
def sourceField (form : Address.Form) : Except FieldFault Address := form.read.mapError FieldFault.address

/-- The heartbeat with these fields, or the first fault among sequence, type, length, seed, hardware address and address. -/
def Draft.check (draft : Draft) : Except FieldFault Heartbeat := do
  let sequence ← octetField "sequence" draft.sequence
  let typeId ← octetField "type_id" draft.typeId
  let uidLength ← octetField "uid_length" draft.uidLength
  let seed ← seedField draft.seed
  let mac ← macField draft.mac
  let source ← sourceField draft.source
  pure ⟨sequence, source, draft.flag, seed, typeId, uidLength, mac⟩

/-- The mode of the checksum. -/
def mode (h : Heartbeat) : Except ChecksumFault Mode := Mode.ofSeed h.seed.toNat

/-- Code, sequence number and length. -/
def header (h : Heartbeat) : Bytes := UInt8.ofNat packetCode :: h.sequence :: Bytes.little 2 length

/-- Type, length of the user name, hardware address, address, flag and seed. -/
def content (h : Heartbeat) : Bytes :=
  h.typeId :: h.uidLength :: h.mac.bytes ++ h.source.bytes ++ Bytes.little 4 h.flag.word ++ Bytes.little 4 h.seed.toNat

/-- The octets that a mode keeps of the digest of the seed. -/
def sampled (h : Heartbeat) (mode : Mode) : Except ChecksumFault Bytes := mode.checksum (Bytes.little 4 h.seed.toNat)

/-- The checksum without a digest: the folded word of all octets before it and of the constant digest, times the multiplier,
and a word of zeros. -/
def foldedChecksum (h : Heartbeat) (constant : Bytes) : Except ChecksumFault Bytes := do
  let word ← Checksum.fold (h.header ++ h.content ++ constant) none
  pure (Bytes.little 4 (word.toNat * multiplier) ++ Bytes.little 4 0)

/-- The checksum of a heartbeat. -/
def checksum (h : Heartbeat) : Except ChecksumFault Bytes := do
  let mode ← h.mode
  let sampled ← h.sampled mode
  if mode = .constant then h.foldedChecksum sampled else pure sampled

/-- The heartbeat as it is sent. -/
def encode (h : Heartbeat) : Except ChecksumFault Bytes := do
  let checksum ← h.checksum
  pure (h.header ++ h.content ++ (checksum ++ Bytes.zeros paddingLength))

@[simp] theorem length_header (h : Heartbeat) : h.header.length = headerLength := by
  simp [header, headerLength]

@[simp] theorem length_content (h : Heartbeat) : h.content.length = contentLength := by
  simp [content, contentLength, h.mac.length_bytes, macLength]

end Heartbeat

end Keepalive
