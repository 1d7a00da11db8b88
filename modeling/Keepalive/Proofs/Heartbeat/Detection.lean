import Keepalive.Proofs.Heartbeat.Layout
import Mathlib.Data.LawfulXor.Basic
import Mathlib.Data.Nat.ModEq

/-!
# What a checksum without a digest sees

The multiplier is twice an odd number, so multiplying loses exactly the highest bit of the folded word (`mul_multiplier_mod_iff`):
two checksums without a digest are equal exactly when the exclusive or of the words before them agrees in the lowest
thirty-one bits (`foldedWord_eq_iff`). When only one octet before the checksum changes, the change goes unseen exactly when it
turns the highest bit of the last octet of a word (`unseen_iff`).
-/

namespace Keepalive.Heartbeat

/-! ## The multiplier -/

/-- Multiplying by the multiplier loses the highest bit of a word, and nothing else. -/
theorem mul_multiplier_mod_iff {x y : Nat} :
    x * 19680126 % 2 ^ 32 = y * 19680126 % 2 ^ 32 ↔ x % 2 ^ 31 = y % 2 ^ 31 := by
  have hm : 19680126 = 9840063 * 2 := rfl
  have hp : 2 ^ 32 = 2 ^ 31 * 2 := rfl
  have hodd : Nat.gcd (2 ^ 31) 9840063 = 1 := by decide
  -- the factor two costs the highest bit, the odd factor costs none
  rw [hm, hp, ← Nat.mul_assoc, ← Nat.mul_assoc]
  constructor
  · intro h
    have h2 : x * 9840063 ≡ y * 9840063 [MOD 2 ^ 31] := (Nat.ModEq.mul_right_cancel_iff' (by decide)).mp h
    exact Nat.ModEq.cancel_right_of_coprime hodd h2
  · intro h
    have h2 : x * 9840063 ≡ y * 9840063 [MOD 2 ^ 31] := Nat.ModEq.mul_right 9840063 h
    exact (Nat.ModEq.mul_right_cancel_iff' (by decide)).mpr h2

/-- Two folded words are equal exactly when what they are folded from agrees in the lowest thirty-one bits. -/
theorem foldedWord_eq_iff {a b : Bytes} :
    foldedWord a = foldedWord b ↔ frontWord a % 2 ^ 31 = frontWord b % 2 ^ 31 := by
  rw [foldedWord, foldedWord, mul_multiplier_mod_iff, Nat.xor_mod_two_pow, Nat.xor_mod_two_pow, Nat.xor_mod_two_pow,
    Nat.xor_mod_two_pow, (xor_left_involutive _).injective.eq_iff, (xor_left_involutive _).injective.eq_iff]

/-- Two folded words are written alike only when they are the same. -/
theorem little_foldedWord_inj {a b : Bytes} :
    Bytes.little 4 (foldedWord a) = Bytes.little 4 (foldedWord b) ↔ foldedWord a = foldedWord b := by
  have hlt : ∀ data, foldedWord data < Bytes.capacity 4 := fun data => Nat.mod_lt _ (by decide)
  rw [Bytes.little_inj, Nat.mod_eq_of_lt (hlt a), Nat.mod_eq_of_lt (hlt b)]

/-- Two checksums without a digest are equal exactly when their folded words are. -/
theorem checksumOf_eq_iff {h h' : Heartbeat} (h0 : h.seed.toNat % 3 = 0) (h0' : h'.seed.toNat % 3 = 0) :
    checksumOf h.front = checksumOf h'.front ↔ frontWord h.front % 2 ^ 31 = frontWord h'.front % 2 ^ 31 := by
  rw [checksumOf_eq_of_constant h0, checksumOf_eq_of_constant h0', List.append_left_inj, little_foldedWord_inj,
    foldedWord_eq_iff]

/-! ## One word that changes -/

/-- When one of the six words changes, their exclusive or changes by that of the old word and the new. -/
theorem frontWord_of_one_word {a b : Bytes} (ha : a.length = 24) (hb : b.length = 24) {k : Nat} (hk : k < 6)
    (hw : ∀ j, j ≠ k → j < 6 → a.wordAt j = b.wordAt j) :
    frontWord b = frontWord a ^^^ (a.wordAt k ^^^ b.wordAt k) := by
  have hwa := Bytes.words_eq_map a
  have hwb := Bytes.words_eq_map b
  rw [ha] at hwa
  rw [hb] at hwb
  have hl : (a.words Bytes.ofLittle).length = 6 := by rw [hwa, List.length_map, List.length_range]
  have hs : b.words Bytes.ofLittle = (a.words Bytes.ofLittle).set k (UInt32.ofNat (b.wordAt k)) := by
    apply List.ext_getElem?
    intro j
    rw [hwb, hwa, List.getElem?_set, List.getElem?_map, List.getElem?_map]
    by_cases hj : k = j
    · subst hj
      simp [hk]
    · rw [if_neg hj]
      by_cases hj6 : j < 6
      · rw [List.getElem?_range hj6, Option.map_some, Option.map_some, hw j (Ne.symm hj) hj6]
      · rw [List.getElem?_eq_none (by rw [List.length_range]; omega)]
        rfl
  have hkl : k < (a.words Bytes.ofLittle).length := by omega
  have hka : (a.words Bytes.ofLittle)[k] = UInt32.ofNat (a.wordAt k) := by
    simp only [hwa, List.getElem_map, List.getElem_range]
  rw [← toNat_xorAll_words hb, hs, Checksum.xorAll_set hkl, UInt32.toNat_xor, UInt32.toNat_xor, hka,
    toNat_xorAll_words ha, UInt32.toNat_ofNat_of_lt' (a.wordAt_lt k), UInt32.toNat_ofNat_of_lt' (b.wordAt_lt k)]

/-- When one octet is set, the exclusive or of the six words changes at the octet's place in its word. -/
theorem frontWord_set {a : Bytes} (ha : a.length = 24) {k r : Nat} (hk : k < 6) (hr : r < 4) (x : UInt8) :
    frontWord (a.set (4 * k + r) x) = frontWord a ^^^ 256 ^ r * (a[4 * k + r] ^^^ x).toNat := by
  have hb : (a.set (4 * k + r) x).length = 24 := by rw [List.length_set, ha]
  have hw : ∀ j, j ≠ k → j < 6 → a.wordAt j = Bytes.wordAt j (a.set (4 * k + r) x) := by
    intro j hj _
    apply Bytes.wordAt_congr
    intro i _ _
    rw [List.getElem?_set_ne (by omega)]
  rw [frontWord_of_one_word ha hb hk hw, Bytes.wordAt_set (by omega) hr, xor_cancel_left]

/-! ## One octet that changes -/

/-- Two numbers agree in the lowest bits exactly when what turns one into the other has none of them. -/
theorem mod_xor_iff {n a d : Nat} : a % 2 ^ n = (a ^^^ d) % 2 ^ n ↔ d % 2 ^ n = 0 := by
  rw [Nat.xor_mod_two_pow, eq_comm, xor_left_eq_self_iff]

/-- Of the bits of a word only the highest is not seen: the highest of its last octet. -/
theorem unseen_iff {r : Nat} (hr : r < 4) {d : UInt8} (hd : d ≠ 0) : 256 ^ r * d.toNat % 2 ^ 31 = 0 ↔ r = 3 ∧ d = 0x80 := by
  have hlt := d.toNat_lt
  have hne : d.toNat ≠ 0 := fun h => hd (UInt8.toNat_inj.mp h)
  have hv : d = 0x80 ↔ d.toNat = 128 := UInt8.toNat_inj.symm
  have hcases : r = 0 ∨ r = 1 ∨ r = 2 ∨ r = 3 := by omega
  rw [hv]
  rcases hcases with rfl | rfl | rfl | rfl
  · omega
  · omega
  · omega
  · omega

/-- An octet of a packet that stands before the checksum. -/
theorem getElem?_packet (h : Heartbeat) {j : Nat} (hj : j < 24) : h.packet[j]? = h.front[j]? := by
  rw [packet, List.getElem?_append_left (by rw [length_front]; exact hj)]

/-- An octet of what stands before the checksum, from the packet. -/
theorem getElem_front {h : Heartbeat} {j : Nat} {x : UInt8} (hx : h.packet[j]? = some x) (hj : j < h.front.length) :
    h.front[j] = x := by
  have hl := h.length_front
  rw [getElem?_packet h (by omega), List.getElem?_eq_getElem hj] at hx
  exact Option.some.inj hx

/-- When two packets differ in one octet before the checksum, setting it turns what stands before the one checksum into what
stands before the other. -/
theorem front_eq_set {h h' : Heartbeat} {i : Nat} (hi : i < 24) {x : UInt8} (hx : h'.packet[i]? = some x)
    (hs : ∀ j, j < 24 → j ≠ i → h.packet[j]? = h'.packet[j]?) : h'.front = h.front.set i x := by
  apply List.ext_getElem?
  intro j
  rw [List.getElem?_set, length_front]
  by_cases hj : i = j
  · subst hj
    rw [if_pos rfl, if_pos hi, ← getElem?_packet h' hi, hx]
  · rw [if_neg hj]
    by_cases hj24 : j < 24
    · rw [← getElem?_packet h hj24, ← getElem?_packet h' hj24, hs j hj24 (Ne.symm hj)]
    · have hl : ∀ g : Heartbeat, g.front[j]? = none := fun g =>
        List.getElem?_eq_none (by rw [length_front]; omega)
      rw [hl, hl]

/-- When one octet before a checksum without a digest changes, the checksum stays exactly when the octet is the last of its word
and only its highest bit turns. -/
theorem checksumOf_eq_iff_of_one_octet {h h' : Heartbeat} (h0 : h.seed.toNat % 3 = 0) (h0' : h'.seed.toNat % 3 = 0)
    {k r : Nat} (hk : k < 6) (hr : r < 4) {x y : UInt8} (hx : h.packet[4 * k + r]? = some x)
    (hy : h'.packet[4 * k + r]? = some y) (hne : x ≠ y) (hs : ∀ j, j < 24 → j ≠ 4 * k + r → h.packet[j]? = h'.packet[j]?) :
    checksumOf h.front = checksumOf h'.front ↔ r = 3 ∧ y = x ^^^ 0x80 := by
  have hi : 4 * k + r < 24 := by omega
  have hl := h.length_front
  have hfx : h.front[4 * k + r] = x := getElem_front hx (by omega)
  have hd : x ^^^ y ≠ 0 := fun e => hne (UInt8.xor_eq_zero_iff.mp e)
  have hflip : y = x ^^^ 0x80 ↔ x ^^^ y = 0x80 := by
    rw [← UInt8.xor_right_inj x, xor_cancel_left]
  rw [checksumOf_eq_iff h0 h0', front_eq_set hi hy hs, frontWord_set hl hk hr, hfx, mod_xor_iff, unseen_iff hr hd, hflip]

/-! ## Which octets can hide a change -/

/-- The last octets of the first word and of the flag are the same in every packet. -/
theorem getElem?_packet_fixed (h : Heartbeat) : h.packet[3]? = some 0 ∧ h.packet[19]? = some 0x2A := by
  constructor
  · rw [packet_eq]
    rfl
  · have hf : h.packet[16 + 3]? = (Bytes.little 4 h.flag.word)[3]? := Bytes.getElem?_of_slice h.slice_flag (by decide)
    rw [hf]
    cases h.flag <;> rfl

/-- Two seeds without a digest that agree in the lowest thirty-one bits are the same: with its highest bit turned a multiple of
three is none. -/
theorem seed_eq_of_mod {h h' : Heartbeat} (h0 : h.seed.toNat % 3 = 0) (h0' : h'.seed.toNat % 3 = 0)
    (hm : h.seed.toNat % 2 ^ 31 = h'.seed.toNat % 2 ^ 31) : h.seed = h'.seed := by
  have hsplit : ∀ g : Heartbeat, g.seed.toNat = g.seed.toNat % 2 ^ 31 ∨ g.seed.toNat = g.seed.toNat % 2 ^ 31 + 2 ^ 31 := by
    intro g
    have hl := g.seed.toNat_lt
    omega
  have hthree : ∀ n : Nat, n % 3 = 0 → (n + 2 ^ 31) % 3 ≠ 0 := by
    intro n hn
    omega
  apply UInt32.toNat_inj.mp
  rcases hsplit h with e | e
  · rcases hsplit h' with e' | e'
    · rw [e, e', hm]
    · refine absurd h0' ?_
      rw [e', ← hm, ← e]
      exact hthree _ h0
  · rcases hsplit h' with e' | e'
    · refine absurd h0 ?_
      rw [e, hm, ← e']
      exact hthree _ h0'
    · rw [e, e', hm]

/-- When only the highest bit turns of the last octet of the seed, the other seed agrees in the lowest thirty-one bits. -/
theorem seed_mod_eq {h h' : Heartbeat} {x : UInt8} (hx : h.packet[23]? = some x) (hy : h'.packet[23]? = some (x ^^^ 0x80))
    (hs : ∀ j, j < 24 → j ≠ 23 → h.packet[j]? = h'.packet[j]?) : h.seed.toNat % 2 ^ 31 = h'.seed.toNat % 2 ^ 31 := by
  have hl := h.length_front
  have hseed : ∀ g : Heartbeat, g.front.wordAt 5 = g.seed.toNat := fun g => by
    rw [← ofLittle_seed, ← seed_front]
    rfl
  have hfx : h.front[4 * 5 + 3] = x := getElem_front hx (by omega)
  have hl4 : 4 * 5 + 4 ≤ h.front.length := by rw [hl]
  have hw := Bytes.wordAt_set (r := 3) hl4 (by decide) (x ^^^ 0x80)
  rw [hfx, xor_cancel_left, ← front_eq_set (by decide) hy hs, hseed, hseed] at hw
  rw [hw, mod_xor_iff]
  rfl

/-- The octets whose highest bit can turn unseen are the last of the second, third and fourth word: they end the first two octets
of the hardware address, the rest of it, and the address. -/
theorem unseen_place {h h' : Heartbeat} (h0 : h.seed.toNat % 3 = 0) (h0' : h'.seed.toNat % 3 = 0) {k : Nat} (hk : k < 6)
    {x : UInt8} (hx : h.packet[4 * k + 3]? = some x) (hy : h'.packet[4 * k + 3]? = some (x ^^^ 0x80)) (hne : x ≠ x ^^^ 0x80)
    (hs : ∀ j, j < 24 → j ≠ 4 * k + 3 → h.packet[j]? = h'.packet[j]?) : k = 1 ∨ k = 2 ∨ k = 3 := by
  have hp : h.packet[4 * k + 3]? ≠ h'.packet[4 * k + 3]? := fun e => hne (by rw [hx, hy] at e; exact Option.some.inj e)
  have hcases : k = 0 ∨ k = 1 ∨ k = 2 ∨ k = 3 ∨ k = 4 ∨ k = 5 := by omega
  rcases hcases with rfl | h123 | h123 | h123 | rfl | rfl
  · exact absurd (h.getElem?_packet_fixed.1.trans h'.getElem?_packet_fixed.1.symm) hp
  · exact Or.inl h123
  · exact Or.inr (Or.inl h123)
  · exact Or.inr (Or.inr h123)
  · exact absurd (h.getElem?_packet_fixed.2.trans h'.getElem?_packet_fixed.2.symm) hp
  · have hseed : ∀ g : Heartbeat, g.packet[20 + 3]? = (Bytes.little 4 g.seed.toNat)[3]? := fun g =>
      Bytes.getElem?_of_slice g.slice_seed (by decide)
    have he : h.packet[20 + 3]? = h'.packet[20 + 3]? := by
      rw [hseed, hseed, seed_eq_of_mod h0 h0' (seed_mod_eq hx hy hs)]
    exact absurd he hp

/-- Two checksums without a digest are equal exactly when the exclusive or of the six words before them agrees in the lowest
thirty-one bits. So when the packets differ in one octet before the checksum, the checksum stays exactly when only the highest
bit turns of the second or of the sixth octet of the hardware address, or of the last octet of the address. -/
theorem checksum_collides_iff (h h' : Heartbeat) (h0 : h.seed.toNat % 3 = 0) (h0' : h'.seed.toNat % 3 = 0) :
    ∃ p p', h.encode = .ok p ∧ h'.encode = .ok p' ∧
      (p.slice 24 8 = p'.slice 24 8 ↔ frontWord p % 2 ^ 31 = frontWord p' % 2 ^ 31) ∧
      ∀ i, i < 24 → p[i]? ≠ p'[i]? → (∀ j, j < 24 → j ≠ i → p[j]? = p'[j]?) →
        (p.slice 24 8 = p'.slice 24 8 ↔
          (i = 7 ∧ h'.mac.bytes[1]? = h.mac.bytes[1]?.map (· ^^^ 0x80)) ∨
          (i = 11 ∧ h'.mac.bytes[5]? = h.mac.bytes[5]?.map (· ^^^ 0x80)) ∨
          (i = 15 ∧ h'.source.bytes[3]? = h.source.bytes[3]?.map (· ^^^ 0x80))) := by
  refine ⟨h.packet, h'.packet, h.encode_eq, h'.encode_eq, ?_, ?_⟩
  · rw [slice_checksum, slice_checksum, frontWord_packet, frontWord_packet]
    exact checksumOf_eq_iff h0 h0'
  · intro i hi hne hs
    obtain ⟨k, r, hk, hr, rfl⟩ : ∃ k r, k < 6 ∧ r < 4 ∧ i = 4 * k + r := ⟨i / 4, i % 4, by omega, by omega, by omega⟩
    have h7 : ∀ g : Heartbeat, g.mac.bytes[1]? = g.packet[4 * 1 + 3]? := fun g =>
      (Bytes.getElem?_of_slice g.slice_mac (by decide)).symm
    have h11 : ∀ g : Heartbeat, g.mac.bytes[5]? = g.packet[4 * 2 + 3]? := fun g =>
      (Bytes.getElem?_of_slice g.slice_mac (by decide)).symm
    have h15 : ∀ g : Heartbeat, g.source.bytes[3]? = g.packet[4 * 3 + 3]? := fun g =>
      (Bytes.getElem?_of_slice g.slice_source (by decide)).symm
    have hat : ∀ g : Heartbeat, ∃ x, g.packet[4 * k + r]? = some x := fun g =>
      ⟨_, List.getElem?_eq_getElem (by rw [length_packet]; omega)⟩
    obtain ⟨x, hx⟩ := hat h
    obtain ⟨y, hy⟩ := hat h'
    have hxy : x ≠ y := fun e => hne (by rw [hx, hy, e])
    rw [slice_checksum, slice_checksum, h7, h7, h11, h11, h15, h15]
    have hone := checksumOf_eq_iff_of_one_octet h0 h0' hk hr hx hy hxy hs
    constructor
    · intro hc
      obtain ⟨rfl, rfl⟩ := hone.mp hc
      rcases unseen_place h0 h0' hk hx hy hxy hs with rfl | rfl | rfl
      · exact Or.inl ⟨rfl, by rw [hx, hy]; rfl⟩
      · exact Or.inr (Or.inl ⟨rfl, by rw [hx, hy]; rfl⟩)
      · exact Or.inr (Or.inr ⟨rfl, by rw [hx, hy]; rfl⟩)
    · intro hflip
      have hk3 : ∀ m, 4 * k + r = 4 * m + 3 → k = m ∧ r = 3 := fun m hm => by omega
      apply hone.mpr
      rcases hflip with ⟨hi7, hflip⟩ | ⟨hi11, hflip⟩ | ⟨hi15, hflip⟩
      · obtain ⟨rfl, rfl⟩ := hk3 1 hi7
        rw [hx, hy] at hflip
        exact ⟨rfl, Option.some.inj hflip⟩
      · obtain ⟨rfl, rfl⟩ := hk3 2 hi11
        rw [hx, hy] at hflip
        exact ⟨rfl, Option.some.inj hflip⟩
      · obtain ⟨rfl, rfl⟩ := hk3 3 hi15
        rw [hx, hy] at hflip
        exact ⟨rfl, Option.some.inj hflip⟩

/-- A heartbeat without a digest whose hardware address has only a second octet. -/
def ofSecondOctet (b : UInt8) : Heartbeat := ⟨0, ⟨0x0A000001⟩, .first, 0, 3, 0, ⟨[0, b, 0, 0, 0, 0], rfl⟩⟩

/-- Two heartbeats whose hardware addresses differ in the highest bit of the second octet have one checksum. -/
theorem checksum_collides_of_second_octet :
    (ofSecondOctet 0).seed.toNat % 3 = 0 ∧ (ofSecondOctet 0x80).seed.toNat % 3 = 0 ∧
      ∃ p p', (ofSecondOctet 0).encode = .ok p ∧ (ofSecondOctet 0x80).encode = .ok p' ∧ p ≠ p' ∧
        p.slice 24 8 = p'.slice 24 8 := by
  obtain ⟨p, p', hp, hp', hsum, _⟩ := checksum_collides_iff (ofSecondOctet 0) (ofSecondOctet 0x80) rfl rfl
  refine ⟨rfl, rfl, p, p', hp, hp', ?_, hsum.mpr ?_⟩
  · rintro rfl
    exact absurd (encode_inj hp hp') (by decide)
  · rw [encode_eq] at hp hp'
    rw [← Except.ok.inj hp, ← Except.ok.inj hp', frontWord_packet, frontWord_packet]
    decide

end Keepalive.Heartbeat
