import Keepalive.Config
import Keepalive.Proofs.Heartbeat.Detection

/-!
# Two heartbeats of one session

Within a session only the sequence number and the flag change. The packet of the one heartbeat is then that of the other with
two octets set (`front_renumber`), and its checksum with them when the seed selects no digest. Sequence number and flag change
the same octet of a word, so the two changes can cancel: the checksums are equal exactly when they do
(`foldedWord_renumber_iff`).
-/

namespace Keepalive

/-- The octet in which the words of the flags differ. -/
def Flag.octet : Flag → UInt8
  | first => 0x62
  | later => 0x63

/-- The bit in which the words of the flags differ. -/
def Flag.bit : Flag → Nat
  | first => 0
  | later => 1

theorem Flag.little_word (flag : Flag) : Bytes.little 4 flag.word = [0, flag.octet, 0, 0x2A] := by
  cases flag <;> rfl

/-- The octet of a flag, from its bit. -/
theorem Flag.octet_eq (flag : Flag) : flag.octet = 0x62 ^^^ UInt8.ofNat flag.bit := by
  cases flag <;> rfl

namespace Heartbeat

/-! ## A heartbeat with another sequence number and flag -/

/-- The same heartbeat with another sequence number and another flag. -/
def renumber (h : Heartbeat) (sequence : UInt8) (flag : Flag) : Heartbeat := { h with sequence := sequence, flag := flag }

@[simp] theorem seed_renumber (h : Heartbeat) (sequence : UInt8) (flag : Flag) : (h.renumber sequence flag).seed = h.seed := rfl

/-- Two heartbeats of one configuration and one seed are alike but for the sequence number and the flag. -/
theorem eq_renumber_of_fits {c : Config} {seed s s' : Int} {f f' : Flag} {h h' : Heartbeat}
    (hf : (Draft.ofConfig c s f seed).Fits h) (hf' : (Draft.ofConfig c s' f' seed).Fits h') :
    h' = h.renumber h'.sequence h'.flag := by
  have hsource : h.source = h'.source := Except.ok.inj (hf.source.symm.trans hf'.source)
  have hseed : h.seed = h'.seed := UInt32.toNat_inj.mp (Int.ofNat.inj (hf.seed.symm.trans hf'.seed))
  have htype : h.typeId = h'.typeId := UInt8.toNat_inj.mp (Int.ofNat.inj (hf.typeId.symm.trans hf'.typeId))
  have huid : h.uidLength = h'.uidLength := UInt8.toNat_inj.mp (Int.ofNat.inj (hf.uidLength.symm.trans hf'.uidLength))
  have hmac : h.mac.bytes = h'.mac.bytes := hf.mac.symm.trans hf'.mac
  cases h with
  | mk sequence source flag seed typeId uidLength mac =>
    cases mac
    cases h' with
    | mk sequence' source' flag' seed' typeId' uidLength' mac' =>
      cases mac'
      subst hsource hseed htype huid hmac
      rfl

/-- Before the checksum, another sequence number and another flag set one octet each. -/
theorem front_renumber (h : Heartbeat) (sequence : UInt8) (flag : Flag) :
    (h.renumber sequence flag).front = (h.front.set 1 sequence).set 17 flag.octet := by
  have hlead : h.lead.set 1 sequence = (h.renumber sequence flag).lead := rfl
  have hword : (Bytes.little 4 h.flag.word).set 1 flag.octet = Bytes.little 4 flag.word := by
    rw [Flag.little_word, Flag.little_word]
    rfl
  have hmac : h.mac.bytes.length = 6 := h.mac.length_bytes
  have hsource : h.source.bytes.length = 4 := h.source.length_bytes
  rw [front_eq, front_eq, List.set_append_left _ _ (by simp), hlead, List.set_append_right _ _ (by simp), length_lead,
    List.set_append_right _ _ (by rw [hmac]; decide), hmac, List.set_append_right _ _ (by rw [hsource]; decide), hsource,
    List.set_append_left _ _ (by simp), hword]
  rfl

/-- Octets before the checksum that another sequence number and another flag leave as they are. -/
theorem getElem?_packet_renumber (h : Heartbeat) (sequence : UInt8) (flag : Flag) {i : Nat} (hi : i < 24) (h1 : i ≠ 1)
    (h17 : i ≠ 17) : (h.renumber sequence flag).packet[i]? = h.packet[i]? := by
  rw [getElem?_packet _ hi, getElem?_packet _ hi, front_renumber, List.getElem?_set_ne (Ne.symm h17),
    List.getElem?_set_ne (Ne.symm h1)]

/-- The octets of a packet from the checksum on. -/
theorem getElem?_packet_footer (h : Heartbeat) (i : Nat) :
    h.packet[24 + i]? = (checksumOf h.front ++ Bytes.zeros paddingLength)[i]? := by
  rw [packet, List.getElem?_append_right (by simp), length_front, Nat.add_sub_cancel_left]

/-- Without a digest the folded word stands behind the octets that call for it. -/
theorem slice_foldedWord {h : Heartbeat} (h0 : h.seed.toNat % 3 = 0) :
    h.packet.slice 24 4 = Bytes.little 4 (foldedWord h.front) := by
  rw [packet, checksumOf_eq_of_constant h0, List.append_assoc]
  exact (Bytes.slice_skip h.length_front).trans (Bytes.slice_prefix (Bytes.length_little 4 _))

/-- Another sequence number and another flag change a packet at their own places, and its checksum when it has no digest. -/
theorem place_of_changed (h : Heartbeat) (sequence : UInt8) (flag : Flag) {i : Nat}
    (hi : (h.renumber sequence flag).packet[i]? ≠ h.packet[i]?) :
    i = 1 ∨ i = 17 ∨ h.seed.toNat % 3 = 0 ∧ 24 ≤ i ∧ i < 28 := by
  rcases Nat.lt_or_ge i 24 with hlt | hge
  · by_cases h1 : i = 1
    · exact Or.inl h1
    · by_cases h17 : i = 17
      · exact Or.inr (Or.inl h17)
      · exact absurd (h.getElem?_packet_renumber sequence flag hlt h1 h17) hi
  · obtain ⟨j, rfl⟩ := Nat.exists_eq_add_of_le hge
    rw [getElem?_packet_footer, getElem?_packet_footer] at hi
    by_cases h0 : h.seed.toNat % 3 = 0
    · have h0' : (h.renumber sequence flag).seed.toNat % 3 = 0 := h0
      rw [checksumOf_eq_of_constant h0, checksumOf_eq_of_constant h0', List.append_assoc, List.append_assoc] at hi
      -- behind the folded words both packets end in the same zeros
      have hj : j < 4 := by
        rcases Nat.lt_or_ge j 4 with hj | hj
        · exact hj
        · have hrest : ∀ (w : Nat) (rest : Bytes), (Bytes.little 4 w ++ rest)[j]? = rest[j - 4]? := fun w rest => by
            rw [List.getElem?_append_right (by rw [Bytes.length_little]; exact hj), Bytes.length_little]
          rw [hrest, hrest] at hi
          exact absurd rfl hi
      exact Or.inr (Or.inr ⟨h0, hge, by omega⟩)
    · rw [checksumOf_eq_of_digest h0 (h.seed_renumber sequence flag)] at hi
      exact absurd rfl hi

/-! ## When the changes cancel -/

/-- The octet of a packet that another flag sets. -/
theorem getElem?_packet_flag (h : Heartbeat) : h.packet[17]? = some h.flag.octet := by
  have hf : h.packet[16 + 1]? = (Bytes.little 4 h.flag.word)[1]? := Bytes.getElem?_of_slice h.slice_flag (by decide)
  rw [hf, Flag.little_word]
  rfl

/-- Another sequence number and another flag change the same octet of the words that are folded. -/
theorem frontWord_renumber (h : Heartbeat) (sequence : UInt8) (flag : Flag) :
    frontWord (h.renumber sequence flag).front =
      frontWord h.front ^^^ 256 * (h.sequence ^^^ h.flag.octet ^^^ (sequence ^^^ flag.octet)).toNat := by
  have hl := h.length_front
  have hl' : (h.front.set (4 * 0 + 1) sequence).length = 24 := by rw [List.length_set, hl]
  -- the sequence number is the second octet of the first word, and the flag changes the second of the fifth
  have hsequence : h.front[4 * 0 + 1] = h.sequence := getElem_front h.layout_packet.sequence (by omega)
  have hflag : (h.front.set (4 * 0 + 1) sequence)[4 * 4 + 1] = h.flag.octet := by
    rw [List.getElem_set_ne (by decide)]
    exact getElem_front h.getElem?_packet_flag (by omega)
  have hset := frontWord_set hl' (k := 4) (r := 1) (by decide) (by decide) flag.octet
  rw [hflag, frontWord_set hl (by decide) (by decide), hsequence] at hset
  have hx : 256 * (h.sequence ^^^ sequence).toNat ^^^ 256 * (h.flag.octet ^^^ flag.octet).toNat =
      256 * (h.sequence ^^^ h.flag.octet ^^^ (sequence ^^^ flag.octet)).toNat := by
    have ho := Bytes.xor_octet 0 0 (h.sequence ^^^ sequence).toNat (h.flag.octet ^^^ flag.octet).toNat
    rw [UInt8.xor_self, UInt8.toNat_zero, Nat.zero_add, Nat.zero_add, Nat.zero_add, ← UInt8.toNat_xor] at ho
    rw [ho]
    ac_rfl
  rw [front_renumber]
  exact hset.trans (by rw [Nat.pow_one, Nat.xor_assoc, hx])

/-- The octet of a sequence number and the octet of a flag, from the bit of the flag. -/
theorem toNat_xor_octet (b : UInt8) (flag : Flag) : (b ^^^ flag.octet).toNat = 0x62 ^^^ (b.toNat ^^^ flag.bit) := by
  have hb : (UInt8.ofNat flag.bit).toNat = flag.bit := by cases flag <;> rfl
  have ho : (0x62 : UInt8).toNat = 0x62 := rfl
  rw [Flag.octet_eq, UInt8.toNat_xor, UInt8.toNat_xor, hb, ho]
  ac_rfl

/-- The folded word stays exactly when the changes of the sequence number and of the flag cancel. -/
theorem foldedWord_renumber_iff (h : Heartbeat) (sequence : UInt8) (flag : Flag) :
    foldedWord h.front = foldedWord (h.renumber sequence flag).front ↔
      h.sequence.toNat ^^^ h.flag.bit = sequence.toNat ^^^ flag.bit := by
  have hlt := (h.sequence ^^^ h.flag.octet ^^^ (sequence ^^^ flag.octet)).toNat_lt
  have hzero : 256 * (h.sequence ^^^ h.flag.octet ^^^ (sequence ^^^ flag.octet)).toNat % 2 ^ 31 = 0 ↔
      (h.sequence ^^^ h.flag.octet ^^^ (sequence ^^^ flag.octet)).toNat = 0 := by omega
  rw [foldedWord_eq_iff, frontWord_renumber, mod_xor_iff, hzero, UInt8.toNat_xor, xor_eq_zero_iff, toNat_xor_octet,
    toNat_xor_octet, (xor_right_involutive _).injective.eq_iff]

/-- Two heartbeats of one session, made from one configuration and one seed, differ only in the sequence number, in the octet
of the flag and, when the seed selects no digest, in the first word of the checksum. That word is the same exactly when
the changes of the sequence number and of the flag cancel: never for two sequence numbers under one flag, and always for a first
heartbeat and a later one whose sequence numbers differ in the lowest bit alone. -/
theorem session_packets_differ (c : Config) (seed s s' : Int) (f f' : Flag) (h h' : Heartbeat)
    (hc : (Draft.ofConfig c s f seed).check = .ok h) (hc' : (Draft.ofConfig c s' f' seed).check = .ok h') :
    ∃ p p', h.encode = .ok p ∧ h'.encode = .ok p' ∧
      (∀ i, p[i]? ≠ p'[i]? → i = 1 ∨ i = 17 ∨ seed % 3 = 0 ∧ 24 ≤ i ∧ i < 28) ∧
      (seed % 3 = 0 →
        (p.slice 24 4 = p'.slice 24 4 ↔ s.toNat ^^^ f.bit = s'.toNat ^^^ f'.bit) ∧
        (f = f' → s ≠ s' → p.slice 24 4 ≠ p'.slice 24 4) ∧
        (f = .first → f' = .later → s' = (s.toNat ^^^ 1 : Nat) → p.slice 24 4 = p'.slice 24 4)) := by
  have hf := check_eq_ok_iff.mp hc
  have hf' := check_eq_ok_iff.mp hc'
  have hr : h' = h.renumber h'.sequence h'.flag := eq_renumber_of_fits hf hf'
  have hs : s = h.sequence.toNat := hf.sequence
  have hs' : s' = h'.sequence.toNat := hf'.sequence
  have hflag : f = h.flag := hf.flag
  have hflag' : f' = h'.flag := hf'.flag
  have hseed : seed = h.seed.toNat := hf.seed
  have hseed' : seed = h'.seed.toNat := hf'.seed
  have hiff : seed % 3 = 0 → (h.packet.slice 24 4 = h'.packet.slice 24 4 ↔ s.toNat ^^^ f.bit = s'.toNat ^^^ f'.bit) := by
    intro h0
    have hword := h.foldedWord_renumber_iff h'.sequence h'.flag
    rw [← hr] at hword
    rw [slice_foldedWord (by omega), slice_foldedWord (by omega), little_foldedWord_inj, hword, hs, hs', hflag, hflag',
      Int.toNat_natCast, Int.toNat_natCast]
  refine ⟨h.packet, h'.packet, h.encode_eq, h'.encode_eq, ?_, fun h0 => ⟨hiff h0, ?_, ?_⟩⟩
  · intro i hi
    rw [hr] at hi
    rcases h.place_of_changed h'.sequence h'.flag (Ne.symm hi) with h1 | h17 | ⟨h0, hsum⟩
    · exact Or.inl h1
    · exact Or.inr (Or.inl h17)
    · exact Or.inr (Or.inr ⟨by omega, hsum⟩)
  · rintro rfl hne heq
    have hx := (xor_left_involutive _).injective ((hiff h0).mp heq)
    exact hne (by omega)
  · rintro rfl rfl hone
    apply (hiff h0).mpr
    rw [hone, Int.toNat_natCast, Flag.bit, Flag.bit, Nat.xor_zero, xor_cancel_right]

/-- A heartbeat of a host that names nothing but its address. -/
def ofHost (sequence : UInt8) (flag : Flag) (seed : UInt32) : Heartbeat :=
  ⟨sequence, ⟨0x0A000001⟩, flag, seed, 3, 0, ⟨defaultMac, rfl⟩⟩

/-- The first heartbeat of a session with sequence number one and a later one with zero differ, but not in their checksum. -/
theorem session_packets_differ_unseen :
    (Draft.ofConfig { host := ⟨0x0A000001⟩ } 1 .first 3).check = .ok (ofHost 1 .first 3) ∧
      (Draft.ofConfig { host := ⟨0x0A000001⟩ } 0 .later 3).check = .ok (ofHost 0 .later 3) ∧
      ∃ p p', (ofHost 1 .first 3).encode = .ok p ∧ (ofHost 0 .later 3).encode = .ok p' ∧ p ≠ p' ∧
        p.slice 24 4 = p'.slice 24 4 := by
  obtain ⟨p, p', hp, hp', _, hsum⟩ :=
    session_packets_differ { host := ⟨0x0A000001⟩ } 3 1 0 .first .later (ofHost 1 .first 3) (ofHost 0 .later 3) rfl rfl
  refine ⟨rfl, rfl, p, p', hp, hp', ?_, (hsum (by decide)).2.2 rfl rfl rfl⟩
  rintro rfl
  exact absurd (encode_inj hp hp') (by decide)

end Heartbeat

end Keepalive
