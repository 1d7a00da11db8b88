import Keepalive.Stream.Reader

/-!
# The challenge

A session opens with a challenge. The request is eight octets: the code, a sequence number, a fixed word and two zeros. The
response is read from its first sixteen octets: the code, seven octets that mean nothing here, the seed of the session, the
least significant octet first, and the address the request came from, the most significant octet first.
-/

namespace Keepalive

/-- The code of every packet of the protocol. -/
def packetCode : Nat := 7

namespace Challenge

/-- A request for a challenge. -/
structure Request where
  sequence : UInt8
  deriving DecidableEq, Repr

/-- A challenge: the seed that every heartbeat repeats, and the address the request came from. -/
structure Response where
  seed : UInt32
  source : Address
  deriving DecidableEq, Repr

namespace Request

/-- The octets of a request. -/
def length : Nat := 8

/-- The fixed word of a request. -/
def magic : Nat := 65544

/-- The sequence number of a request that names none. -/
def defaultSequence : Nat := 1

/-- The request with a sequence number. -/
def ofSequence (sequence : Int) : Except FieldFault Request := (octetField "sequence" sequence).map Request.mk

/-- The request as it is sent. -/
def encode (request : Request) : Bytes :=
  UInt8.ofNat packetCode :: request.sequence :: Bytes.little 4 magic ++ Bytes.zeros 2

@[simp] theorem length_encode (request : Request) : request.encode.length = length := by
  simp [encode, length]

end Request

namespace Response

/-- The octets after the code that mean nothing. -/
def reservedLength : Nat := 7

/-- The octets of the seed. -/
def seedLength : Nat := 4

/-- The octets of the address. -/
def sourceLength : Nat := 4

/-- Reads a response; nothing after its sixteen octets is touched. -/
def read : Reading Response := do
  Reader.code packetCode
  Reader.skip reservedLength "reserved"
  let seed ← Reader.take seedLength "challenge_seed"
  let source ← Reader.take sourceLength "source_ip"
  pure ⟨UInt32.ofNat (Bytes.ofLittle seed), ⟨UInt32.ofNat (Bytes.ofBig source)⟩⟩

/-- The response at the beginning of a byte string. -/
def ofBytes (data : Bytes) : Except ReadFault Response := (read (Reader.ofBytes data)).1

/-- The response as it is sent, with zeros for the octets that mean nothing. -/
def encode (response : Response) : Bytes :=
  UInt8.ofNat packetCode :: Bytes.zeros reservedLength ++ Bytes.little 4 response.seed.toNat ++ response.source.bytes

end Response

end Challenge

end Keepalive
