import Keepalive.Bytes.Hex
import Keepalive.Fault
import Keepalive.Journal

/-!
# Packets with their records

Making and reading packets leaves records in the journal: of each packet made or read, of each checksum taken, and of each
packet that could not be read. What is made and read is what the packets themselves say; nothing here changes it.
-/

namespace Keepalive

/-- The records of a packet that could not be read; the speaker is the kind of packet that was expected. -/
def ReadFault.records (speaker : String) : ReadFault → List Record
  | truncated field expected received =>
    [⟨.debug, "read_bytes: field=" ++ field ++ " short read " ++ Numeral.decimal received ++ "/" ++ Numeral.decimal expected⟩]
  | wrongCode expected actual =>
    [⟨.debug, speaker ++ ": code mismatch expect=" ++ ReadFault.codeText expected ++ " got=" ++ ReadFault.codeText actual⟩]
  | oversized => []
  | longNumber => []

/-- Makes the checksum that keeps the octets at the given offsets. -/
def Mode.takeChecksum (mode : Mode) (offsets : List Nat) (data : Bytes) : Logged ChecksumFault Bytes := do
  let kept ← Logged.ofExcept (mode.checksumAt offsets data)
  Logged.log .debug ("crc_hash: mode=" ++ mode.name ++ " hash=" ++ kept.hex)
  pure kept

namespace Challenge

/-- Makes a request. -/
def Request.send (request : Request) : Logged FieldFault Bytes := do
  let packet := request.encode
  Logged.log .debug
    ("challenge_build: seq=" ++ Numeral.decimal request.sequence.toNat ++ " pkt=" ++ packet.hex)
  pure packet

/-- Makes the request with a sequence number. -/
def send (sequence : Int) : Logged FieldFault Bytes := do
  let request ← Logged.ofExcept (Request.ofSequence sequence)
  request.send

/-- The speaker of records about responses. -/
def Response.speaker : String := "ChallengeResponse"

/-- The seed of a response in hexadecimal, ten characters wide. -/
def Response.seedText (response : Response) : String := Numeral.prefixedHex 10 response.seed.toNat

/-- The record of a response. -/
def Response.record (response : Response) : Record :=
  ⟨.debug, "challenge_response: seed=" ++ response.seedText ++ " source_ip=" ++ response.source.dotted⟩

/-- The records of an attempt to read a response. -/
def Response.records : Except ReadFault Response → List Record
  | .ok response => [response.record]
  | .error fault => fault.records Response.speaker

/-- Reads the response at the beginning of a byte string. -/
def Response.receive (data : Bytes) : Logged ReadFault Response :=
  let outcome := Response.ofBytes data
  ⟨Response.records outcome, outcome⟩

end Challenge

namespace Heartbeat

/-- The checksum in a heartbeat as it is sent. -/
def checksumIn (packet : Bytes) : Bytes := (packet.drop (headerLength + contentLength)).take checksumLength

/-- The record of a heartbeat. -/
def record (h : Heartbeat) (mode : Mode) (packet : Bytes) : Record :=
  ⟨.debug, "heartbeat_build: seq=" ++ Numeral.decimal h.sequence.toNat ++ " flag=" ++ h.flag.name ++ " mode=" ++ mode.name ++
    " checksum=" ++ (checksumIn packet).hex ++ " len=" ++ Numeral.decimal packet.length⟩

/-- Makes a heartbeat. -/
def send (h : Heartbeat) : Logged ChecksumFault Bytes := do
  let mode ← Logged.ofExcept h.mode
  let _ ← mode.takeChecksum mode.retained (Bytes.little 4 h.seed.toNat)
  let packet ← Logged.ofExcept h.encode
  let record := h.record mode packet
  Logged.log record.level record.text
  pure packet

/-- Makes the heartbeat of fields that are not yet checked. -/
def Draft.send (draft : Draft) : Logged Fault (Heartbeat × Bytes) := do
  let h ← (Logged.ofExcept draft.check).mapError Fault.field
  let packet ← h.send.mapError Fault.checksum
  pure (h, packet)

end Heartbeat

end Keepalive
