import Keepalive.Packet.Challenge
import Keepalive.Proofs.Bytes.Places
import Keepalive.Proofs.Stream.Advance

/-!
# What is read as a challenge response

Every byte string is read as a response in exactly one way, which its first octet and its length decide (`Decodes`): a
response, a wrong code, or the first field that it does not hold whole. A reader on a steady stream reads what remains of the
stream in this way and takes as many octets as the way says (`read_of_decodes`).
-/

namespace Keepalive.Challenge.Response

/-- How a byte string is read as a response, and how many of its octets are taken. -/
inductive Decodes (r : Bytes) : Except ReadFault Response → Nat → Prop where
  | empty : r.length = 0 → Decodes r (.error (.truncated "code" 1 0)) 0
  | wrongCode {code : UInt8} : r[0]? = some code → code ≠ 7 → Decodes r (.error (.wrongCode 7 code.toNat)) 1
  | reserved : r[0]? = some 7 → r.length < 8 → Decodes r (.error (.truncated "reserved" 7 (r.length - 1))) r.length
  | seed : r[0]? = some 7 → 8 ≤ r.length → r.length < 12 →
      Decodes r (.error (.truncated "challenge_seed" 4 (r.length - 8))) r.length
  | source : r[0]? = some 7 → 12 ≤ r.length → r.length < 16 →
      Decodes r (.error (.truncated "source_ip" 4 (r.length - 12))) r.length
  | response {response : Response} : r[0]? = some 7 → 16 ≤ r.length → response.seed.toNat = Bytes.ofLittle (r.slice 8 4) →
      response.source.value.toNat = Bytes.ofBig (r.slice 12 4) → Decodes r (.ok response) 16

/-- Every byte string is read in some way. -/
theorem exists_decodes (r : Bytes) : ∃ outcome count, Decodes r outcome count := by
  cases hr : r[0]? with
  | none =>
    have h0 : r.length = 0 := by
      have := List.getElem?_eq_none_iff.mp hr
      omega
    exact ⟨_, _, .empty h0⟩
  | some code =>
    by_cases hc : code = 7
    · subst hc
      by_cases h8 : r.length < 8
      · exact ⟨_, _, .reserved hr h8⟩
      by_cases h12 : r.length < 12
      · exact ⟨_, _, .seed hr (by omega) h12⟩
      by_cases h16 : r.length < 16
      · exact ⟨_, _, .source hr (by omega) h16⟩
      have hseed : Bytes.ofLittle (r.slice 8 4) < 2 ^ 32 := Bytes.wordAt_lt 2 r
      have hsource : Bytes.ofBig (r.slice 12 4) < 2 ^ 32 := by
        have hl := Bytes.ofLittle_lt (r.slice 12 4).reverse
        rwa [List.length_reverse, Bytes.length_slice (by omega)] at hl
      have hd : Decodes r (.ok ⟨UInt32.ofNat (Bytes.ofLittle (r.slice 8 4)), ⟨UInt32.ofNat (Bytes.ofBig (r.slice 12 4))⟩⟩) 16 :=
        .response hr (by omega) (UInt32.toNat_ofNat_of_lt' hseed) (UInt32.toNat_ofNat_of_lt' hsource)
      exact ⟨_, _, hd⟩
    · exact ⟨_, _, .wrongCode hr hc⟩

/-- No more octets are taken than there are. -/
theorem Decodes.count_le {r : Bytes} {outcome : Except ReadFault Response} {count : Nat} (h : Decodes r outcome count) :
    count ≤ r.length := by
  cases h with
  | empty _ => exact Nat.zero_le _
  | wrongCode h0 _ => exact (List.getElem?_eq_some_iff.mp h0).1
  | reserved _ _ => exact Nat.le_refl _
  | seed _ _ _ => exact Nat.le_refl _
  | source _ _ _ => exact Nat.le_refl _
  | response _ h16 _ _ => exact h16

/-! ## The fields one after another -/

/-- What is read behind the seed. -/
def behindSeed (seed : Bytes) : Reading Response := do
  let source ← Reader.take sourceLength "source_ip"
  pure ⟨UInt32.ofNat (Bytes.ofLittle seed), ⟨UInt32.ofNat (Bytes.ofBig source)⟩⟩

/-- What is read behind the octets that mean nothing. -/
def behindReserved : Reading Response := Reader.take seedLength "challenge_seed" >>= behindSeed

/-- What is read behind the first octet, when it is the code. -/
def behindCode (octets : Bytes) : Reading Response :=
  if (Bytes.ofLittle octets : Int) = packetCode then Reader.take reservedLength "reserved" >>= fun _ => behindReserved
  else throw (.wrongCode packetCode (Bytes.ofLittle octets))

/-- A response is read field by field. -/
theorem read_eq : read = Reader.take 1 "code" >>= behindCode := by
  rw [read, Reader.code, bind_assoc]
  congr 1
  funext octets
  by_cases h : (Bytes.ofLittle octets : Int) = packetCode
  · simp only [behindCode, h, ne_eq, not_true_eq_false, if_false, if_true, pure_bind, Reader.skip, bind_assoc]
    rfl
  · simp only [behindCode, h, ne_eq, not_false_eq_true, if_false, if_true]
    rfl

variable {reader : Reader}

/-- Behind the first octet of a steady stream that is not at its end. -/
theorem read_behind_code (h : reader.stream.Steady) {code : UInt8} (h0 : reader.stream.remaining[0]? = some code) :
    ∃ after, reader.Advances after (reader.stream.remaining.take 1) ∧ read reader = behindCode [code] after := by
  have hl : 0 + 1 ≤ reader.stream.remaining.length := (List.getElem?_eq_some_iff.mp h0).1
  obtain ⟨after, ha, ht⟩ := (Reader.Advances.start reader).take_whole h (by decide) hl "code" behindCode
  rw [List.drop_zero, List.take_one, List.head?_eq_getElem?, h0, Option.toList_some] at ht
  refine ⟨after, ha, ?_⟩
  rw [read_eq]
  exact ht

/-- Behind the octets that mean nothing. -/
theorem read_behind_reserved (h : reader.stream.Steady) (h0 : reader.stream.remaining[0]? = some 7)
    (h8 : 8 ≤ reader.stream.remaining.length) :
    ∃ after, reader.Advances after (reader.stream.remaining.take 8) ∧ read reader = behindReserved after := by
  obtain ⟨b, hb, hread⟩ := read_behind_code h h0
  have hl : 1 + reservedLength ≤ reader.stream.remaining.length := h8
  obtain ⟨c, hc, ht⟩ := hb.take_whole (hb.steady h) (by decide) hl "reserved" fun _ => behindReserved
  exact ⟨c, hc, hread.trans ht⟩

/-- Behind the seed. -/
theorem read_behind_seed (h : reader.stream.Steady) (h0 : reader.stream.remaining[0]? = some 7)
    (h12 : 12 ≤ reader.stream.remaining.length) :
    ∃ after, reader.Advances after (reader.stream.remaining.take 12) ∧
      read reader = behindSeed (reader.stream.remaining.slice 8 4) after := by
  obtain ⟨b, hb, hread⟩ := read_behind_reserved h h0 (Nat.le_trans (by decide) h12)
  have hl : 8 + seedLength ≤ reader.stream.remaining.length := h12
  obtain ⟨c, hc, ht⟩ := hb.take_whole (hb.steady h) (by decide) hl "challenge_seed" behindSeed
  exact ⟨c, hc, hread.trans ht⟩

/-- A reader on a steady stream reads what remains in the way it is to be read, and takes as many octets as that way says. -/
theorem read_of_decodes (h : reader.stream.Steady) {outcome : Except ReadFault Response} {count : Nat}
    (hd : Decodes reader.stream.remaining outcome count) :
    ∃ after, reader.Advances after (reader.stream.remaining.take count) ∧ read reader = (outcome, after) := by
  cases hd with
  | empty h0 =>
    have hl : reader.stream.remaining.length < 0 + 1 := by omega
    obtain ⟨after, ha, ht⟩ := (Reader.Advances.start reader).take_short h (by decide) (Nat.zero_le _) hl "code" behindCode
    rw [h0] at ha ht
    exact ⟨after, ha, by rw [read_eq]; exact ht⟩
  | @wrongCode code h0 hc =>
    obtain ⟨after, ha, hread⟩ := read_behind_code h h0
    have ho : Bytes.ofLittle [code] = code.toNat := rfl
    have hne : ¬ (code.toNat : Int) = packetCode := fun he => hc (UInt8.toNat_inj.mp (Int.ofNat.inj he))
    refine ⟨after, ha, hread.trans ?_⟩
    rw [behindCode, ho, if_neg hne]
    rfl
  | reserved h0 h8 =>
    obtain ⟨b, hb, hread⟩ := read_behind_code h h0
    have h1 : 1 ≤ reader.stream.remaining.length := (List.getElem?_eq_some_iff.mp h0).1
    have hl : reader.stream.remaining.length < 1 + reservedLength := h8
    obtain ⟨c, hc, ht⟩ := hb.take_short (hb.steady h) (by decide) h1 hl "reserved" fun _ => behindReserved
    exact ⟨c, hc, hread.trans ht⟩
  | seed h0 h8 h12 =>
    obtain ⟨b, hb, hread⟩ := read_behind_reserved h h0 h8
    have hl : reader.stream.remaining.length < 8 + seedLength := h12
    obtain ⟨c, hc, ht⟩ := hb.take_short (hb.steady h) (by decide) h8 hl "challenge_seed" behindSeed
    exact ⟨c, hc, hread.trans ht⟩
  | source h0 h12 h16 =>
    obtain ⟨b, hb, hread⟩ := read_behind_seed h h0 h12
    have hl : reader.stream.remaining.length < 12 + sourceLength := h16
    obtain ⟨c, hc, ht⟩ := hb.take_short (hb.steady h) (by decide) h12 hl "source_ip" _
    exact ⟨c, hc, hread.trans ht⟩
  | response h0 h16 hseed hsource =>
    obtain ⟨b, hb, hread⟩ := read_behind_seed h h0 (Nat.le_trans (by decide) h16)
    have hl : 12 + sourceLength ≤ reader.stream.remaining.length := h16
    obtain ⟨c, hc, ht⟩ := hb.take_whole (hb.steady h) (by decide) hl "source_ip" _
    have hs : (reader.stream.remaining.drop 12).take sourceLength = reader.stream.remaining.slice 12 4 := rfl
    refine ⟨c, hc, hread.trans (ht.trans ?_)⟩
    rw [hs, ← hseed, ← hsource, UInt32.ofNat_toNat, UInt32.ofNat_toNat]
    rfl

/-- A byte string is read in the way it is to be read. -/
theorem ofBytes_of_decodes {data : Bytes} {outcome : Except ReadFault Response} {count : Nat} (h : Decodes data outcome count) :
    ofBytes data = outcome := by
  have hsteady : (Reader.ofBytes data).stream.Steady := trivial
  obtain ⟨after, -, hread⟩ := read_of_decodes hsteady h
  rw [ofBytes, hread]

/-- Sixteen octets or more behind the code are read as a response, whose address is the word of the last four of the sixteen, the
most significant octet first. -/
theorem exists_ofBytes {data : Bytes} (hcode : data[0]? = some 7) (hlength : 16 ≤ data.length) :
    ∃ response, ofBytes data = .ok response ∧ response.source.value.toNat = Bytes.ofBig (data.slice 12 4) := by
  obtain ⟨outcome, count, hd⟩ := exists_decodes data
  rw [ofBytes_of_decodes hd]
  cases hd with
  | empty h => omega
  | wrongCode h hne =>
    rw [hcode] at h
    exact absurd (Option.some.inj h).symm hne
  | reserved _ h => omega
  | seed _ _ h => omega
  | source _ _ h => omega
  | response _ _ _ hsource => exact ⟨_, rfl, hsource⟩

/-! ## Responses that are sent -/

/-- A response is read from what it is sent as. -/
theorem decodes_encode (response : Response) : Decodes response.encode (.ok response) 16 := by
  have hlead : (UInt8.ofNat packetCode :: Bytes.zeros reservedLength).length = 8 := rfl
  have hlength : response.encode.length = 16 := by
    rw [encode, List.length_append, List.length_append, Bytes.length_little, Address.length_bytes, hlead]
  have hbehind : ∀ start, response.encode.slice (8 + start) 4 =
      (Bytes.little 4 response.seed.toNat ++ response.source.bytes).slice start 4 := by
    intro start
    rw [encode, List.append_assoc]
    exact Bytes.slice_skip hlead
  have hseed : response.encode.slice 8 4 = Bytes.little 4 response.seed.toNat :=
    (hbehind 0).trans (Bytes.slice_prefix (Bytes.length_little 4 _))
  have hsource : response.encode.slice 12 4 = response.source.bytes := by
    have hskip : (Bytes.little 4 response.seed.toNat ++ response.source.bytes).slice (4 + 0) 4 = response.source.bytes.slice 0 4 :=
      Bytes.slice_skip (Bytes.length_little 4 _)
    rw [hbehind 4, hskip]
    exact List.take_of_length_le (Nat.le_of_eq response.source.length_bytes)
  refine .response rfl (Nat.le_of_eq hlength.symm) ?_ ?_
  · rw [hseed, Bytes.ofLittle_little_of_lt response.seed.toNat_lt]
  · rw [hsource, Address.ofBig_bytes]

/-- A response comes back from what it is sent as. -/
theorem ofBytes_encode (response : Response) : ofBytes response.encode = .ok response :=
  ofBytes_of_decodes response.decodes_encode

end Keepalive.Challenge.Response
