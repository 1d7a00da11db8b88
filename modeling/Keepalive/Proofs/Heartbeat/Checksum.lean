import Keepalive.Packet.Heartbeat
import Keepalive.Proofs.Checksum.Fold
import Keepalive.Proofs.Checksum.Sample
import Keepalive.Proofs.Outcome

/-!
# The checksum of a heartbeat

The checksum is a function of the twenty-four octets before it (`checksumOf`, `checksum_eq`): of the seed among them alone when the
seed selects a digest, and of all six words when it selects none. So every heartbeat has a checksum and is sent
(`encode_eq`), and its checksum can be recomputed from what stands before it.
-/

namespace Keepalive.Heartbeat

open Outcome

/-- The octets before the checksum. -/
def front (h : Heartbeat) : Bytes := h.header ++ h.content

/-- The exclusive or of the six words before the checksum. -/
def frontWord (packet : Bytes) : Nat :=
  packet.wordAt 0 ^^^ packet.wordAt 1 ^^^ packet.wordAt 2 ^^^ packet.wordAt 3 ^^^ packet.wordAt 4 ^^^ packet.wordAt 5

/-- The word that a checksum without a digest holds, from the octets before it. -/
def foldedWord (packet : Bytes) : Nat := (frontWord packet ^^^ 20000711 ^^^ 126) * 19680126 % 2 ^ 32

/-- The checksum that the first twenty-four octets of a packet call for. -/
def checksumOf (packet : Bytes) : Bytes :=
  let seed := packet.slice 20 4
  if Bytes.ofLittle seed % 3 = 1 then [2, 3, 8, 9, 5, 6, 13, 14].map ((Digest.md5 seed).getD · 0)
  else if Bytes.ofLittle seed % 3 = 2 then [1, 2, 8, 9, 4, 5, 11, 12].map ((Digest.md4 seed).getD · 0)
  else Bytes.little 4 (foldedWord packet) ++ Bytes.zeros 4

@[simp] theorem length_front (h : Heartbeat) : h.front.length = 24 := by
  rw [front, List.length_append, length_header, length_content]
  rfl

@[simp] theorem length_checksumOf (packet : Bytes) : (checksumOf packet).length = 8 := by
  simp only [checksumOf]
  split
  · rfl
  · split
    · rfl
    · rw [List.length_append, Bytes.length_little, Bytes.length_zeros]

/-- The seed is the last word before the checksum. -/
theorem seed_front (h : Heartbeat) : h.front.slice 20 4 = Bytes.little 4 h.seed.toNat := by
  have hf : h.front = (h.header ++ (h.typeId :: h.uidLength :: h.mac.bytes ++ h.source.bytes ++
      Bytes.little 4 h.flag.word)) ++ Bytes.little 4 h.seed.toNat := by
    simp only [front, content, List.append_assoc]
  have hl : (h.header ++ (h.typeId :: h.uidLength :: h.mac.bytes ++ h.source.bytes ++
      Bytes.little 4 h.flag.word)).length = 20 := by
    simp [headerLength, h.mac.length_bytes, macLength]
  rw [hf, ← List.append_nil (Bytes.little 4 h.seed.toNat)]
  exact (Bytes.slice_skip hl).trans (Bytes.slice_prefix (Bytes.length_little 4 _))

/-- A seed on four octets is read back. -/
theorem ofLittle_seed (h : Heartbeat) : Bytes.ofLittle (Bytes.little 4 h.seed.toNat) = h.seed.toNat :=
  Bytes.ofLittle_little_of_lt h.seed.toNat_lt

/-- The exclusive or of the words of twenty-four octets, as a number. -/
theorem toNat_xorAll_words {data : Bytes} (hl : data.length = 24) :
    (Checksum.xorAll (data.words Bytes.ofLittle)).toNat = frontWord data := by
  have hr : List.range (24 / 4) = [0, 1, 2, 3, 4, 5] := rfl
  have hw : ∀ k, (UInt32.ofNat (data.wordAt k)).toNat = data.wordAt k := fun k =>
    UInt32.toNat_ofNat_of_lt' (data.wordAt_lt k)
  have h0 : UInt32.toNat 0 = 0 := rfl
  rw [Bytes.words_eq_map, hl, hr]
  simp only [List.map_cons, List.map_nil, Checksum.xorAll, UInt32.toNat_xor, hw, h0, Nat.xor_zero, frontWord, Nat.xor_assoc]

/-- Without a digest the checksum is the word folded from all six words before it, and a word of zeros. -/
theorem foldedChecksum_eq (h : Heartbeat) :
    h.foldedChecksum (Bytes.little 4 Mode.constantFirst ++ Bytes.little 4 Mode.constantSecond) =
      .ok (Bytes.little 4 (foldedWord h.front) ++ Bytes.zeros 4) := by
  have hl : h.front.length % 4 = 0 := by rw [length_front]
  have hc : (Bytes.little 4 Mode.constantFirst ++ Bytes.little 4 Mode.constantSecond).words Bytes.ofLittle =
      [20000711, 126] := rfl
  have hw : (Checksum.xorAll (h.front.words Bytes.ofLittle ++ [20000711, 126])).toNat =
      frontWord h.front ^^^ 20000711 ^^^ 126 := by
    rw [Checksum.xorAll_append, UInt32.toNat_xor, toNat_xorAll_words h.length_front, Nat.xor_assoc]
    rfl
  rw [foldedChecksum, ← front, Checksum.fold_none (by simp), ok_bind, Bytes.words_append _ _ hl, hc, hw]
  have hm : Bytes.little 4 ((frontWord h.front ^^^ 20000711 ^^^ 126) * multiplier) =
      Bytes.little 4 (foldedWord h.front) := by
    rw [← Bytes.little_mod]
    rfl
  rw [hm]
  rfl

/-- The checksum that the octets of a heartbeat call for, by the remainder of its seed. -/
theorem checksumOf_front (h : Heartbeat) :
    checksumOf h.front =
      if h.seed.toNat % 3 = 1 then
        [2, 3, 8, 9, 5, 6, 13, 14].map ((Digest.md5 (Bytes.little 4 h.seed.toNat)).getD · 0)
      else if h.seed.toNat % 3 = 2 then
        [1, 2, 8, 9, 4, 5, 11, 12].map ((Digest.md4 (Bytes.little 4 h.seed.toNat)).getD · 0)
      else Bytes.little 4 (foldedWord h.front) ++ Bytes.zeros 4 := by
  simp only [checksumOf, seed_front, ofLittle_seed]

/-- With a digest the checksum depends on the seed alone. -/
theorem checksumOf_eq_of_digest {h h' : Heartbeat} (hd : h.seed.toNat % 3 ≠ 0) (hs : h'.seed = h.seed) :
    checksumOf h'.front = checksumOf h.front := by
  rw [checksumOf_front, checksumOf_front, hs]
  by_cases h1 : h.seed.toNat % 3 = 1
  · rw [if_pos h1, if_pos h1]
  · have h2 : h.seed.toNat % 3 = 2 := by omega
    rw [if_neg h1, if_neg h1, if_pos h2, if_pos h2]

/-- Without a digest the first word of the checksum is the folded word, and zeros follow. -/
theorem checksumOf_eq_of_constant {h : Heartbeat} (h0 : h.seed.toNat % 3 = 0) :
    checksumOf h.front = Bytes.little 4 (foldedWord h.front) ++ Bytes.zeros 4 := by
  rw [checksumOf_front, if_neg (by omega), if_neg (by omega)]

/-- The checksum of a heartbeat exists, and is the one that the octets before it call for. -/
theorem checksum_eq (h : Heartbeat) : h.checksum = .ok (checksumOf h.front) := by
  rw [checksumOf_front]
  rcases Mode.ofSeed_cases h.seed.toNat with ⟨hr, hm⟩ | ⟨hr, hm⟩ | ⟨hr, hm⟩
  · rw [checksum, mode, hm, ok_bind, sampled, Mode.checksum_constant, ok_bind, if_pos rfl, foldedChecksum_eq,
      if_neg (by omega), if_neg (by omega)]
  · rw [checksum, mode, hm, ok_bind, sampled, Mode.checksum_eq, ok_bind, if_neg (by decide), if_pos (by omega)]
    rfl
  · rw [checksum, mode, hm, ok_bind, sampled, Mode.checksum_eq, ok_bind, if_neg (by decide), if_neg (by omega),
      if_pos (by omega)]
    rfl

/-- A heartbeat as it is sent: what stands before the checksum, the checksum that it calls for, and zeros. -/
def packet (h : Heartbeat) : Bytes := h.front ++ (checksumOf h.front ++ Bytes.zeros paddingLength)

/-- Every heartbeat is sent. -/
theorem encode_eq (h : Heartbeat) : h.encode = .ok h.packet := by
  rw [encode, checksum_eq, ok_bind]
  rfl

/-! ## The checksum in a packet -/

/-- The first octets of a packet are those before the checksum. -/
theorem take_packet (h : Heartbeat) : h.packet.take 24 = h.front := by
  rw [packet, ← length_front h, List.take_left]

/-- The checksum stands behind the octets that call for it. -/
theorem slice_checksum (h : Heartbeat) : h.packet.slice 24 8 = checksumOf h.front :=
  (Bytes.slice_skip h.length_front).trans (Bytes.slice_prefix (length_checksumOf _))

/-- Only the octets before the checksum count for the folded word. -/
theorem frontWord_packet (h : Heartbeat) : frontWord h.packet = frontWord h.front := by
  have hw : ∀ k, 4 * k + 4 ≤ 24 → h.packet.wordAt k = h.front.wordAt k := fun k hk =>
    Bytes.wordAt_append_left _ (by rw [length_front]; exact hk)
  rw [frontWord, hw 0 (by decide), hw 1 (by decide), hw 2 (by decide), hw 3 (by decide), hw 4 (by decide),
    hw 5 (by decide), ← frontWord]

/-- The checksum of every heartbeat can be recomputed from the octets before it. When the seed is one or two more than a
multiple of three, it is eight octets of the MD5 or MD4 digest of the seed, so it depends on nothing else; when it is a
multiple of three, it is the exclusive or of the six words and two constants, times the multiplier, and four zeros. No seed
selects the fourth mode. -/
theorem checksum_of_preceding_octets (h : Heartbeat) :
    ∃ packet, h.encode = .ok packet ∧ packet.slice 20 4 = Bytes.little 4 h.seed.toNat ∧
      packet.slice 24 8 = checksumOf (packet.take 24) ∧
      (h.seed.toNat % 3 = 1 → packet.slice 24 8 =
        [2, 3, 8, 9, 5, 6, 13, 14].map ((Digest.md5 (Bytes.little 4 h.seed.toNat)).getD · 0)) ∧
      (h.seed.toNat % 3 = 2 → packet.slice 24 8 =
        [1, 2, 8, 9, 4, 5, 11, 12].map ((Digest.md4 (Bytes.little 4 h.seed.toNat)).getD · 0)) ∧
      (h.seed.toNat % 3 = 0 → packet.slice 24 8 =
        Bytes.little 4 ((packet.wordAt 0 ^^^ packet.wordAt 1 ^^^ packet.wordAt 2 ^^^ packet.wordAt 3 ^^^
          packet.wordAt 4 ^^^ packet.wordAt 5 ^^^ 20000711 ^^^ 126) * 19680126 % 2 ^ 32) ++ [0, 0, 0, 0]) ∧
      (h.seed.toNat % 3 ≠ 0 → ∀ other : Heartbeat, other.seed = h.seed →
        ∃ packet', other.encode = .ok packet' ∧ packet'.slice 24 8 = packet.slice 24 8) ∧
      ∀ seed : Int, Mode.ofSeed seed ≠ .ok .sha1 := by
  refine ⟨h.packet, h.encode_eq, ?_, ?_, ?_, ?_, ?_, ?_, ?_⟩
  · rw [packet, Bytes.slice_append_left _ (by simp), seed_front]
  · rw [slice_checksum, take_packet]
  · intro h1
    rw [slice_checksum, checksumOf_front, if_pos h1]
  · intro h2
    rw [slice_checksum, checksumOf_front, if_neg (by omega), if_pos h2]
  · intro h0
    rw [slice_checksum, checksumOf_eq_of_constant h0, ← frontWord, frontWord_packet]
    rfl
  · intro hd other ho
    refine ⟨other.packet, other.encode_eq, ?_⟩
    rw [slice_checksum, slice_checksum, checksumOf_eq_of_digest hd ho]
  · intro seed hs
    rcases Mode.ofSeed_cases seed with ⟨_, hm⟩ | ⟨_, hm⟩ | ⟨_, hm⟩
    · rw [hm] at hs
      nomatch hs
    · rw [hm] at hs
      nomatch hs
    · rw [hm] at hs
      nomatch hs

end Keepalive.Heartbeat
