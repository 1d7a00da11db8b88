import Keepalive.Bytes.Hex
import Keepalive.Proofs.Text.Numeral

/-!
# Octets in hexadecimal

An octet is spelled by its two digits, in letters of either case, and a byte string by those of its octets with ASCII blanks
before, between and behind them (`Bytes.Spelled`). Just these texts are read, and as the octets that they spell
(`ofHex?_eq_some_iff`). So a text that is read has two characters for each octet besides its blanks (`Spelled.length`).
-/

namespace Keepalive.Bytes

open Text

/-! ## Digits -/

/-- The two digits of an octet are digits, and stand for its halves. -/
theorem digits_hexPair (b : UInt8) : Numeral.Digits 16 (hexPair b) [b.toNat / 16, b.toNat % 16] := by
  have hb := b.toNat_lt
  have hhigh := Numeral.digit?_digitChar (show b.toNat / 16 < 16 by omega) (Nat.le_refl 16)
  have hlow := Numeral.digit?_digitChar (Nat.mod_lt b.toNat (by decide : 0 < 16)) (Nat.le_refl 16)
  rw [Numeral.Digits, hexPair, List.map_cons, List.map_cons, List.map_nil, hhigh, hlow]
  rfl

/-- The digits of a byte string are hexadecimal digits. -/
theorem exists_digit_of_mem_hexDigits {octets : Bytes} {c : Char} (h : c ∈ hexDigits octets) :
    ∃ d, Numeral.digit? 16 c = some d := by
  obtain ⟨b, -, hc⟩ := List.mem_flatMap.mp h
  exact (digits_hexPair b).exists_of_mem hc

/-- The digits of a byte string are written in small letters. -/
theorem toLower_of_mem_hexDigits {octets : Bytes} {c : Char} (h : c ∈ hexDigits octets) : c.toLower = c := by
  have hsmall : ∀ d : Fin 16, (Nat.digitChar d).toLower = Nat.digitChar d := by decide
  obtain ⟨b, -, hc⟩ := List.mem_flatMap.mp h
  have hb := b.toNat_lt
  simp only [hexPair, List.mem_cons, List.not_mem_nil, or_false] at hc
  rcases hc with rfl | rfl
  · exact hsmall ⟨b.toNat / 16, by omega⟩
  · exact hsmall ⟨b.toNat % 16, by omega⟩

theorem length_hexDigits (octets : Bytes) : (hexDigits octets).length = 2 * octets.length := by
  induction octets with
  | nil => rfl
  | cons b octets ih =>
    rw [hexDigits, List.flatMap_cons, List.length_append, ← hexDigits, ih, List.length_cons]
    show 2 + 2 * octets.length = _
    omega

/-- Two characters are the digits of an octet, in letters of either case, exactly when they are read as its halves. -/
theorem pair_iff {octet : UInt8} {c d : Char} : [c.toLower, d.toLower] = hexPair octet ↔
    Numeral.digit? 16 c = some (octet.toNat / 16) ∧ Numeral.digit? 16 d = some (octet.toNat % 16) := by
  have hlt := octet.toNat_lt
  have hhigh : octet.toNat / 16 < 16 := by omega
  have hlow : octet.toNat % 16 < 16 := by omega
  rw [hexPair, List.cons.injEq, List.cons.injEq, Numeral.digit?_eq_some_iff, Numeral.digit?_eq_some_iff]
  simp only [hhigh, hlow, true_and, and_true]

/-! ## Spellings -/

/-- A text spells octets: the two digits of each in turn, in letters of either case, and ASCII blanks before, between and behind
the pairs. -/
inductive Spelled : Bytes → List Char → Prop where
  | nil : Spelled [] []
  | blank {octets : Bytes} {c : Char} {text : List Char} : isNarrowBlank c = true → Spelled octets text → Spelled octets (c :: text)
  | pair {octet : UInt8} {octets : Bytes} {c d : Char} {text : List Char} : [c.toLower, d.toLower] = hexPair octet →
      Spelled octets text → Spelled (octet :: octets) (c :: d :: text)

/-- What is read is spelled. -/
theorem spelled_of_ofHex? {text : List Char} {octets : Bytes} (h : ofHex? text = some octets) : Spelled octets text := by
  fun_induction ofHex? text generalizing octets with
  | case1 =>
    rw [← Option.some.inj h]
    exact .nil
  | case2 c rest hc ih => exact .blank hc (ih h)
  | case3 c hc => nomatch h
  | case4 c hc d rest ih =>
    simp only [Option.bind_eq_bind, Option.bind_eq_some_iff] at h
    obtain ⟨high, hhigh, low, hlow, others, hothers, hoctets⟩ := h
    rw [← Option.some.inj hoctets]
    refine .pair (pair_iff.mpr ?_) (ih hothers)
    -- the octet has the two digits for its halves
    have h16 := (Numeral.digit?_eq_some_iff.mp hhigh).1
    have h16' := (Numeral.digit?_eq_some_iff.mp hlow).1
    have hoctet : (UInt8.ofNat (16 * high + low)).toNat = 16 * high + low := UInt8.toNat_ofNat_of_lt' (by simp only [UInt8.size]; omega)
    rw [hoctet, hhigh, hlow]
    constructor <;> congr 1 <;> omega

/-- What is spelled is read. -/
theorem Spelled.ofHex?_eq {text : List Char} {octets : Bytes} (h : Spelled octets text) : ofHex? text = some octets := by
  induction h with
  | nil => rfl
  | blank hc _ ih =>
    rw [ofHex?.eq_def]
    exact (if_pos hc).trans ih
  | @pair octet octets c d text hpair _ ih =>
    obtain ⟨hhigh, hlow⟩ := pair_iff.mp hpair
    have hblank : ¬isNarrowBlank c = true := by
      rw [Numeral.not_isNarrowBlank_of_digit? hhigh]
      exact Bool.false_ne_true
    have hoctet : UInt8.ofNat (16 * (octet.toNat / 16) + octet.toNat % 16) = octet := by
      rw [Nat.div_add_mod, UInt8.ofNat_toNat]
    rw [ofHex?, if_neg hblank]
    simp only [hhigh, hlow, ih, Option.bind_eq_bind, Option.bind_some, hoctet]
    rfl

/-- A text is read as octets exactly when it spells them. -/
theorem ofHex?_eq_some_iff {text : List Char} {octets : Bytes} : ofHex? text = some octets ↔ Spelled octets text :=
  ⟨spelled_of_ofHex?, Spelled.ofHex?_eq⟩

/-- A text has two characters for each octet that it spells, and blanks. -/
theorem Spelled.length {text : List Char} {octets : Bytes} (h : Spelled octets text) :
    text.length = 2 * octets.length + text.countP isNarrowBlank := by
  induction h with
  | nil => rfl
  | blank hc _ ih => rw [List.length_cons, List.countP_cons_of_pos hc, ih, Nat.add_assoc]
  | @pair octet octets c d text hpair _ ih =>
    obtain ⟨hhigh, hlow⟩ := pair_iff.mp hpair
    have hc : ¬isNarrowBlank c = true := Bool.eq_false_iff.mp (Numeral.not_isNarrowBlank_of_digit? hhigh)
    have hd : ¬isNarrowBlank d = true := Bool.eq_false_iff.mp (Numeral.not_isNarrowBlank_of_digit? hlow)
    rw [List.countP_cons_of_neg hc, List.countP_cons_of_neg hd]
    simp only [List.length_cons]
    omega

/-- The digits of a byte string spell it, in letters of either case. -/
theorem Spelled.of_hexDigits {octets : Bytes} {text : List Char} (h : text.map Char.toLower = hexDigits octets) :
    Spelled octets text := by
  induction octets generalizing text with
  | nil =>
    rw [List.map_eq_nil_iff.mp h]
    exact .nil
  | cons octet octets ih =>
    obtain ⟨high, rest, rfl, hhigh, hrest⟩ := List.map_eq_cons_iff.mp h
    obtain ⟨low, others, rfl, hlow, hothers⟩ := List.map_eq_cons_iff.mp hrest
    exact .pair (congrArg₂ (fun c d => [c, d]) hhigh hlow) (ih hothers)

/-- Octets are read back from what they are written as. -/
theorem ofHex?_hex (octets : Bytes) : ofHex? octets.hex.toList = some octets := by
  have hsmall : (hexDigits octets).map Char.toLower = hexDigits octets := by
    rw [List.map_congr_left fun c hc => toLower_of_mem_hexDigits hc, List.map_id']
  rw [hex, String.toList_ofList]
  exact (Spelled.of_hexDigits hsmall).ofHex?_eq

end Keepalive.Bytes
