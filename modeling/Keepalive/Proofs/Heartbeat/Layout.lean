import Keepalive.Proofs.Heartbeat.Checksum
import Keepalive.Proofs.Heartbeat.Draft

/-!
# The layout of a heartbeat

Every heartbeat is sent as ninety-six octets with its fields at fixed places (`Layout`), from which all seven can be read back
(`ofPacket?`). Writing the numbers of a draft one by one, each on octets that must hold it (`Draft.write`), can fail; it does
not for a draft that passed the checks, and then writes the same packet.
-/

namespace Keepalive.Heartbeat

open Outcome

/-- The fields of a heartbeat stand at their places in a packet. -/
structure Layout (h : Heartbeat) (packet : Bytes) : Prop where
  length : packet.length = 96
  code : packet[0]? = some 7
  sequence : packet[1]? = some h.sequence
  size : Bytes.ofLittle (packet.slice 2 2) = 96
  typeId : packet[4]? = some h.typeId
  uidLength : packet[5]? = some h.uidLength
  mac : packet.slice 6 6 = h.mac.bytes
  source : packet.slice 12 4 = h.source.bytes
  /-- the octets of the address stand in the order in which it is written -/
  dotted : h.source.dottedChars = ['.'].intercalate ((packet.slice 12 4).map fun b => Nat.toDigits 10 b.toNat)
  flag : Bytes.ofLittle (packet.slice 16 4) = h.flag.word
  seed : Bytes.ofLittle (packet.slice 20 4) = h.seed.toNat
  padding : packet.slice 32 64 = Bytes.zeros 64

/-- The heartbeat whose fields stand at their places in a packet. -/
def ofPacket? (packet : Bytes) : Option Heartbeat := do
  let sequence ← packet[1]?
  let typeId ← packet[4]?
  let uidLength ← packet[5]?
  let mac ← (macField (packet.slice 6 6)).toOption
  let flag ← Flag.ofWord? (Bytes.ofLittle (packet.slice 16 4))
  let source := ⟨UInt32.ofNat (Bytes.ofBig (packet.slice 12 4))⟩
  let seed := UInt32.ofNat (Bytes.ofLittle (packet.slice 20 4))
  pure ⟨sequence, source, flag, seed, typeId, uidLength, mac⟩

/-! ## The places of the fields -/

/-- The octets before the hardware address. -/
def lead (h : Heartbeat) : Bytes := [7, h.sequence, 96, 0, h.typeId, h.uidLength]

@[simp] theorem length_lead (h : Heartbeat) : h.lead.length = 6 := rfl

/-- What stands before the checksum, part by part. -/
theorem front_eq (h : Heartbeat) :
    h.front = h.lead ++ (h.mac.bytes ++ (h.source.bytes ++ (Bytes.little 4 h.flag.word ++ Bytes.little 4 h.seed.toNat))) := by
  rw [front, header, content]
  simp only [List.append_assoc]
  rfl

/-- A packet, part by part. -/
theorem packet_eq (h : Heartbeat) :
    h.packet = h.lead ++ (h.mac.bytes ++ (h.source.bytes ++ (Bytes.little 4 h.flag.word ++
      (Bytes.little 4 h.seed.toNat ++ (checksumOf h.front ++ Bytes.zeros paddingLength))))) := by
  rw [packet]
  generalize checksumOf h.front = sum
  rw [front_eq]
  simp only [List.append_assoc]

theorem length_packet (h : Heartbeat) : h.packet.length = 96 := by
  rw [packet, List.length_append, List.length_append, length_front, length_checksumOf, Bytes.length_zeros]
  rfl

theorem slice_mac (h : Heartbeat) : h.packet.slice 6 6 = h.mac.bytes := by
  rw [packet_eq]
  exact (Bytes.slice_skip h.length_lead).trans (Bytes.slice_prefix h.mac.length_bytes)

/-- What stands behind the hardware address. -/
theorem slice_behind_mac (h : Heartbeat) (start count : Nat) :
    h.packet.slice (12 + start) count = Bytes.slice start count (h.source.bytes ++ (Bytes.little 4 h.flag.word ++
      (Bytes.little 4 h.seed.toNat ++ (checksumOf h.front ++ Bytes.zeros paddingLength)))) := by
  have hs : 12 + start = 6 + (6 + start) := by omega
  rw [packet_eq, hs, Bytes.slice_skip h.length_lead]
  exact Bytes.slice_skip h.mac.length_bytes

theorem slice_source (h : Heartbeat) : h.packet.slice 12 4 = h.source.bytes :=
  (slice_behind_mac h 0 4).trans (Bytes.slice_prefix h.source.length_bytes)

theorem slice_flag (h : Heartbeat) : h.packet.slice 16 4 = Bytes.little 4 h.flag.word :=
  calc h.packet.slice 16 4 = _ := slice_behind_mac h (4 + 0) 4
    _ = _ := Bytes.slice_skip h.source.length_bytes
    _ = _ := Bytes.slice_prefix (Bytes.length_little 4 _)

theorem slice_seed (h : Heartbeat) : h.packet.slice 20 4 = Bytes.little 4 h.seed.toNat := by
  rw [packet, Bytes.slice_append_left _ (by simp), seed_front]

theorem slice_padding (h : Heartbeat) : h.packet.slice 32 64 = Bytes.zeros 64 := by
  have hp : h.packet = (h.front ++ checksumOf h.front) ++ (Bytes.zeros 64 ++ []) := by
    rw [packet, List.append_nil, List.append_assoc]
    rfl
  have hl : (h.front ++ checksumOf h.front).length = 32 := by simp
  rw [hp]
  exact (Bytes.slice_skip hl).trans (Bytes.slice_prefix (Bytes.length_zeros 64))

/-- The word of a flag is read back. -/
theorem ofLittle_flag (h : Heartbeat) : Bytes.ofLittle (Bytes.little 4 h.flag.word) = h.flag.word := by
  cases h.flag <;> rfl

/-- Every heartbeat stands at its places in its packet. -/
theorem layout_packet (h : Heartbeat) : h.Layout h.packet where
  length := h.length_packet
  code := by rw [packet_eq]; rfl
  sequence := by rw [packet_eq]; rfl
  size := by rw [packet_eq]; rfl
  typeId := by rw [packet_eq]; rfl
  uidLength := by rw [packet_eq]; rfl
  mac := h.slice_mac
  source := h.slice_source
  dotted := by rw [slice_source]; rfl
  flag := by rw [slice_flag, ofLittle_flag]
  seed := by rw [slice_seed, ofLittle_seed]
  padding := h.slice_padding

/-- The heartbeat that stands at its places in a packet is read back. -/
theorem Layout.ofPacket?_eq {h : Heartbeat} {packet : Bytes} (hl : h.Layout packet) : ofPacket? packet = some h := by
  have hs : UInt32.ofNat (Bytes.ofBig h.source.bytes) = h.source.value := by
    rw [Address.ofBig_bytes, UInt32.ofNat_toNat]
  rw [ofPacket?, hl.sequence, hl.typeId, hl.uidLength, hl.mac, hl.source, hl.flag, hl.seed,
    macField_eq_ok_iff.mpr rfl, (Flag.ofWord?_eq_some_iff _ _).mpr rfl, hs, UInt32.ofNat_toNat]
  rfl

/-- Heartbeats with one packet are the same heartbeat. -/
theorem packet_inj {h h' : Heartbeat} (hp : h.packet = h'.packet) : h = h' := by
  have h1 := h.layout_packet.ofPacket?_eq
  have h2 := h'.layout_packet.ofPacket?_eq
  rw [hp, h2] at h1
  exact (Option.some.inj h1).symm

/-- Heartbeats that are sent as one packet are the same heartbeat. -/
theorem encode_inj {h h' : Heartbeat} {packet : Bytes} (hp : h.encode = .ok packet) (hp' : h'.encode = .ok packet) :
    h = h' := by
  rw [encode_eq] at hp hp'
  exact packet_inj (Except.ok.inj (hp.trans hp'.symm))

/-! ## Writing a draft number by number -/

/-- Why the fields of a draft cannot be written. -/
inductive WriteFault where
  /-- a number that its octets do not hold -/
  | overflow (width : Nat) (value : Int)
  | checksum (fault : ChecksumFault)
  deriving DecidableEq, Repr

/-- A number on so many octets, the least significant first, which must hold it. -/
def pack (width : Nat) (value : Int) : Except WriteFault Bytes :=
  if 0 ≤ value ∧ value < Bytes.capacity width then .ok (Bytes.little width value.toNat)
  else .error (.overflow width value)

/-- Code, sequence number and length of a draft. -/
def Draft.writeHeader (draft : Draft) : Except WriteFault Bytes := do
  let code ← pack 1 packetCode
  let sequence ← pack 1 draft.sequence
  let size ← pack 2 Heartbeat.length
  pure (code ++ (sequence ++ size))

/-- Type, length of the user name, hardware address, address, flag and seed of a draft. -/
def Draft.writeContent (draft : Draft) (source : Address) : Except WriteFault Bytes := do
  let typeId ← pack 1 draft.typeId
  let uidLength ← pack 1 draft.uidLength
  let flag ← pack 4 draft.flag.word
  let seed ← pack 4 draft.seed
  pure (typeId ++ (uidLength ++ draft.mac) ++ source.bytes ++ flag ++ seed)

/-- The checksum of a draft whose header and content are written, and the zeros behind it. -/
def Draft.writeFooter (draft : Draft) (before : Bytes) : Except WriteFault Bytes := do
  let mode ← (Mode.ofSeed draft.seed).mapError WriteFault.checksum
  let seed ← pack 4 draft.seed
  let kept ← (mode.checksum seed).mapError WriteFault.checksum
  if mode = .constant then
    let word ← (Checksum.fold (before ++ kept) none).mapError WriteFault.checksum
    let product ← pack 4 ((word.toNat * multiplier % 2 ^ 32 : Nat) : Int)
    let rest ← pack 4 0
    pure (product ++ rest ++ Bytes.zeros paddingLength)
  else pure (kept ++ Bytes.zeros paddingLength)

/-- The packet of a draft whose address has been read. -/
def Draft.write (draft : Draft) (source : Address) : Except WriteFault Bytes := do
  let header ← draft.writeHeader
  let content ← draft.writeContent source
  let footer ← draft.writeFooter (header ++ content)
  pure (header ++ content ++ footer)

/-- A number that its octets hold is written. -/
theorem pack_of_lt {width n : Nat} (h : n < Bytes.capacity width) : pack width n = .ok (Bytes.little width n) := by
  have hn : 0 ≤ (n : Int) ∧ (n : Int) < Bytes.capacity width := by omega
  rw [pack, if_pos hn, Int.toNat_natCast]

/-- An octet is written as it is. -/
theorem pack_octet (b : UInt8) : pack 1 b.toNat = .ok [b] := by
  rw [pack_of_lt b.toNat_lt, Bytes.little, Bytes.little, UInt8.ofNat_toNat]

/-- The numbers of the header fit their octets when the draft has the fields of a heartbeat. -/
theorem writeHeader_of_fits {draft : Draft} {h : Heartbeat} (hf : draft.Fits h) : draft.writeHeader = .ok h.header := by
  rw [Draft.writeHeader, pack_of_lt (by decide), ok_bind, hf.sequence, pack_octet, ok_bind, pack_of_lt (by decide), ok_bind]
  rfl

/-- The numbers of the content fit their octets when the draft has the fields of a heartbeat. -/
theorem writeContent_of_fits {draft : Draft} {h : Heartbeat} (hf : draft.Fits h) :
    draft.writeContent h.source = .ok h.content := by
  have hflag : h.flag.word < Bytes.capacity 4 := by cases h.flag <;> decide
  rw [Draft.writeContent, hf.typeId, pack_octet, ok_bind, hf.uidLength, pack_octet, ok_bind, hf.flag, pack_of_lt hflag,
    ok_bind, hf.seed, pack_of_lt h.seed.toNat_lt, ok_bind, hf.mac]
  rfl

/-- The checksum of a draft that has the fields of a heartbeat is made, and its numbers fit their octets. -/
theorem writeFooter_of_fits {draft : Draft} {h : Heartbeat} (hf : draft.Fits h) :
    draft.writeFooter h.front = .ok (checksumOf h.front ++ Bytes.zeros paddingLength) := by
  have hc := h.checksum_eq
  rw [checksum, bind_eq_ok] at hc
  obtain ⟨mode, hm, hc⟩ := hc
  rw [bind_eq_ok] at hc
  obtain ⟨kept, hk, hc⟩ := hc
  have hm' : (Mode.ofSeed h.seed.toNat).mapError WriteFault.checksum = .ok mode := mapError_eq_ok.mpr hm
  have hk' : (mode.checksum (Bytes.little 4 h.seed.toNat)).mapError WriteFault.checksum = .ok kept :=
    mapError_eq_ok.mpr hk
  rw [Draft.writeFooter, hf.seed, hm', ok_bind, pack_of_lt h.seed.toNat_lt, ok_bind, hk', ok_bind]
  by_cases hmode : mode = .constant
  · rw [if_pos hmode] at hc ⊢
    rw [foldedChecksum, bind_eq_ok] at hc
    obtain ⟨word, hw, hc⟩ := hc
    have hw' : (Checksum.fold (h.front ++ kept) none).mapError WriteFault.checksum = .ok word := mapError_eq_ok.mpr hw
    have hp : word.toNat * multiplier % 2 ^ 32 < Bytes.capacity 4 := Nat.mod_lt _ (by decide)
    have hl : Bytes.little 4 (word.toNat * multiplier % 2 ^ 32) = Bytes.little 4 (word.toNat * multiplier) :=
      Bytes.little_mod 4 _
    rw [hw', ok_bind, pack_of_lt hp, ok_bind, hl, ← pure_eq_ok.mp hc]
    rfl
  · rw [if_neg hmode] at hc ⊢
    rw [← pure_eq_ok.mp hc]
    rfl

/-- A draft that has the fields of a heartbeat is written as the heartbeat is sent. -/
theorem write_of_fits {draft : Draft} {h : Heartbeat} (hf : draft.Fits h) : draft.write h.source = .ok h.packet := by
  rw [Draft.write, writeHeader_of_fits hf, ok_bind, writeContent_of_fits hf, ok_bind, ← front, writeFooter_of_fits hf,
    ok_bind]
  rfl

/-- A draft that passed the checks is sent: no number overflows its octets and the checksum is made. Its packet has
ninety-six octets with the fields at their places, all fields are read back from it, and no other heartbeat has that packet. -/
theorem encode_of_checked (draft : Draft) (h : Heartbeat) (hc : draft.check = .ok h) :
    draft.Fits h ∧ ∃ packet, h.encode = .ok packet ∧ draft.write h.source = .ok packet ∧ h.Layout packet ∧
      ofPacket? packet = some h ∧ ∀ other : Heartbeat, other.encode = .ok packet → other = h := by
  have hf := check_eq_ok_iff.mp hc
  refine ⟨hf, h.packet, h.encode_eq, write_of_fits hf, h.layout_packet, h.layout_packet.ofPacket?_eq, ?_⟩
  intro other ho
  exact encode_inj ho h.encode_eq

/-- The draft with the greatest number in every field. -/
def Draft.greatest : Draft := ⟨255, .text "255.255.255.255", .later, 4294967295, 255, 255, [255, 255, 255, 255, 255, 255]⟩

/-- The heartbeat with the greatest number in every field. -/
def greatest : Heartbeat := ⟨255, ⟨4294967295⟩, .later, 4294967295, 255, 255, ⟨[255, 255, 255, 255, 255, 255], rfl⟩⟩

/-- The greatest numbers still fit their octets. -/
theorem encode_of_greatest : Draft.greatest.check = .ok greatest ∧ Draft.greatest.Fits greatest ∧
    ∃ packet, greatest.encode = .ok packet ∧ Draft.greatest.write greatest.source = .ok packet ∧ greatest.Layout packet ∧
      ofPacket? packet = some greatest ∧ ∀ other : Heartbeat, other.encode = .ok packet → other = greatest :=
  ⟨rfl, encode_of_checked Draft.greatest greatest rfl⟩

end Keepalive.Heartbeat
