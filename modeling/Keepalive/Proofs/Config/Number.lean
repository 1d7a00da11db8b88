import Keepalive.Proofs.Config.Settings
import Keepalive.Proofs.Text.Integer
import Keepalive.Proofs.Value

/-!
# Numbers in settings

The two numbers of one octet and the port are taken from values in different ways. A number of one octet is made of the text of its
value, in decimal or in hexadecimal (`OctetOf`); no value but an integer or a text has a text that spells an integer, so truth
values and numbers of the binary format are none (`octetOf_iff`). A port is made of the number itself, whole or cut to a whole one, of
a truth value, or of a text in decimal (`PortOf`). Settings whose other fields are made are accepted exactly when the number is in
its range, and the configuration has this number (`number_of_loaded`).
-/

namespace Keepalive

open Outcome Text

/-! ## Texts that are no numbers -/

/-- Decimal digits filled up with zeros begin with a digit. -/
theorem Numeral.exists_cons_padDecimal (width n : Nat) :
    ∃ c rest, (padDecimal width n).toList = c :: rest ∧ isBlank c = false := by
  have hne : padded width (Nat.toDigits 10 n) ≠ [] := List.append_ne_nil_of_right_ne_nil _ Nat.toDigits_ne_nil
  obtain ⟨c, rest, hcons⟩ := List.exists_cons_of_ne_nil hne
  refine ⟨c, rest, by rw [padDecimal, String.toList_ofList, hcons], ?_⟩
  have hm : c ∈ padded width (Nat.toDigits 10 n) := hcons ▸ List.mem_cons_self
  rw [padded, List.mem_append] at hm
  rcases hm with hm | hm
  · rw [List.eq_of_mem_replicate hm]
    rfl
  · obtain ⟨ds, hds, -⟩ := exists_digits (by decide : 1 < 10) (by decide) n
    obtain ⟨d, hd⟩ := hds.exists_of_mem hm
    have hr := range_of_digit? hd
    exact isBlank_of_range (by omega)

namespace Binary64

/-- Digits are laid out with a point, or with a power of ten, whose sign stands behind the first digit. -/
theorem layout_cases {digits : List Char} (h : ∀ c ∈ digits, isBlank c = false) (point : Int) : '.' ∈ layout digits point ∨
    (∃ c rest, layout digits point = c :: rest ∧ isBlank c = false ∧ ('+' ∈ rest ∨ '-' ∈ rest)) ∨ layout digits point = [] := by
  have hsign : '+' ∈ exponentText (point - 1) ∨ '-' ∈ exponentText (point - 1) := by
    rw [exponentText]
    split
    · exact .inr (by simp)
    · exact .inl (by simp)
  unfold layout
  split
  · split
    · rename_i d
      exact .inr (.inl ⟨d, _, rfl, h d List.mem_cons_self, hsign⟩)
    · exact .inl (by simp)
    · exact .inr (.inr rfl)
  · split
    · exact .inl (by simp)
    · dsimp only
      split
      · exact .inl (by simp)
      · exact .inl (by simp)

/-- The digits of a number are no white space, and neither are those that are left without the zeros at the end. -/
theorem not_isBlank_of_mem_significant {n : Nat} {c : Char} (h : c ∈ significant (Nat.toDigits 10 n)) : isBlank c = false := by
  have hm : c ∈ Nat.toDigits 10 n :=
    List.mem_reverse.mp ((List.dropWhile_sublist _).subset (List.mem_reverse.mp h))
  obtain ⟨ds, hds, -⟩ := Numeral.exists_digits (by decide : 1 < 10) (by decide) n
  obtain ⟨d, hd⟩ := hds.exists_of_mem hm
  have hr := Numeral.range_of_digit? hd
  exact Numeral.isBlank_of_range (by omega)

/-- The text of a number of the binary format spells no integer. -/
theorem not_spellsEither_text (x : Binary64) (n : Int) : ¬Numeral.SpellsEither x.text.toList n := by
  intro h
  cases x with
  | nan => exact absurd (h.isAdmitted (c := 'n') (by decide)) (by decide)
  | infinite negative =>
    have hm : 'n' ∈ (infinite negative).text.toList := by cases negative <;> decide
    exact absurd (h.isAdmitted hm) (by decide)
  | finite negative units =>
    rw [text, String.toList_ofList] at h
    have hpoint : '.' ∉ magnitudeText units := fun hm => absurd (h.isAdmitted (List.mem_append_right _ hm)) (by decide)
    unfold magnitudeText at h hpoint
    split at hpoint
    · exact hpoint (by simp)
    · rename_i hunits
      rw [if_neg hunits] at h
      rcases layout_cases (fun _ => not_isBlank_of_mem_significant) _ with hm | ⟨c, rest, hlayout, hc, hsign⟩ | hnil
      · exact hpoint hm
      · -- the sign of the power of ten stands behind the first digit
        dsimp only at h
        rw [hlayout] at h
        have hbehind : ∀ b ∈ rest, b ≠ '+' ∧ b ≠ '-' := by
          cases negative with
          | false => exact h.no_sign_behind hc
          | true =>
            have hall := Numeral.SpellsEither.no_sign_behind h (by decide)
            exact fun b hb => hall b (List.mem_cons_of_mem _ hb)
        rcases hsign with hm | hm
        · exact (hbehind _ hm).1 rfl
        · exact (hbehind _ hm).2 rfl
      · dsimp only at h
        rw [hnil, List.append_nil] at h
        have hnone : Numeral.eitherBase? (if negative then ['-'] else []) = none := by cases negative <;> rfl
        have hread := hnone.symm.trans (Numeral.eitherBase?_eq_some_iff.mpr h)
        cases hread

end Binary64

namespace Value

/-- The text of a date spells no integer. -/
theorem not_spellsEither_date (d : Date) (n : Int) : ¬Numeral.SpellsEither d.plain.toList n := by
  intro h
  obtain ⟨c, rest, hyear, hc⟩ := Numeral.exists_cons_padDecimal 4 d.year
  rw [Date.plain, String.toList_append, String.toList_append, String.toList_append, String.toList_append, hyear] at h
  refine (Numeral.SpellsEither.no_sign_behind h hc '-' ?_).2 rfl
  simp

/-- The text of a time spells no integer. -/
theorem not_spellsEither_time (t : Time) (n : Int) : ¬Numeral.SpellsEither t.plain.toList n := by
  intro h
  exact absurd (h.isAdmitted (c := ':') (by simp [Time.plain])) (by decide)

/-- The text of a moment spells no integer. -/
theorem not_spellsEither_moment (m : Moment) (n : Int) : ¬Numeral.SpellsEither m.plain.toList n := by
  intro h
  exact absurd (h.isAdmitted (c := ':') (by simp [Moment.plain, Time.plain])) (by decide)

/-- A text between brackets spells no integer. -/
theorem not_spellsEither_bracketed {opening : String} {c : Char} (hc : c ∈ opening.toList)
    (hforeign : Numeral.isAdmitted c = false) (closing : String) (items : List String) (n : Int) :
    ¬Numeral.SpellsEither (bracketed opening closing items).toList n := by
  intro h
  have hm : c ∈ (bracketed opening closing items).toList := by
    rw [bracketed, String.toList_append, String.toList_append]
    exact List.mem_append_left _ (List.mem_append_left _ hc)
  rw [h.isAdmitted hm] at hforeign
  nomatch hforeign

/-- A value whose text spells an integer is an integer or a text. -/
theorem text_or_integer {room : Nat} {value : Value} {t : String} {n : Int} (ht : value.plain room = .ok t)
    (h : Numeral.SpellsEither t.toList n) : value = .text t ∨ ∃ number, value = .integer number := by
  cases value with
  | text s => exact .inl (congrArg text (Except.ok.inj ht))
  | integer number => exact .inr ⟨number, rfl⟩
  | boolean b =>
    have hb : (.ok (truthText b) : Except TextFault String) = .ok t := ht
    rw [← Except.ok.inj hb] at h
    cases b with
    | true => exact absurd (h.isAdmitted (c := 'T') (by decide)) (by decide)
    | false => exact absurd (h.isAdmitted (c := 'l') (by decide)) (by decide)
  | real x =>
    have hx : (.ok x.text : Except TextFault String) = .ok t := ht
    exact absurd (Except.ok.inj hx ▸ h) (x.not_spellsEither_text n)
  | null =>
    have hnull : (.ok "None" : Except TextFault String) = .ok t := ht
    rw [← Except.ok.inj hnull] at h
    exact absurd (h.isAdmitted (c := 'N') (by decide)) (by decide)
  | list items =>
    obtain ⟨texts, rfl⟩ := bracketed_of_plain_list ht
    exact absurd h (not_spellsEither_bracketed (c := '[') (by decide) (by decide) _ _ n)
  | table entries =>
    obtain ⟨texts, rfl⟩ := bracketed_of_plain_table ht
    exact absurd h (not_spellsEither_bracketed (c := '\x7b') (by decide) (by decide) _ _ n)
  | date d => exact absurd h (Except.ok.inj ht ▸ not_spellsEither_date d n)
  | time u => exact absurd h (Except.ok.inj ht ▸ not_spellsEither_time u n)
  | moment m => exact absurd h (Except.ok.inj ht ▸ not_spellsEither_moment m n)

end Value

/-! ## Values that are numbers -/

/-- A whole number is a number of the binary format without what is behind its point. -/
structure Binary64.WholePart (negative : Bool) (units : Nat) (number : Int) : Prop where
  least : number.natAbs * one ≤ units
  below : units < (number.natAbs + 1) * one
  sign : if negative then number ≤ 0 else 0 ≤ number

/-- Cutting a number off at its point gives its whole part, and nothing else is that. -/
theorem Binary64.truncate_eq_iff {negative : Bool} {units : Nat} {number : Int} :
    truncate negative units = number ↔ WholePart negative units number := by
  have hone : 0 < one := by decide +kernel
  have hdiv : units / one = number.natAbs ↔ number.natAbs * one ≤ units ∧ units < (number.natAbs + 1) * one := by
    rw [Nat.div_eq_iff hone, Nat.succ_mul]
    omega
  have hwhole : WholePart negative units number ↔ units / one = number.natAbs ∧ (if negative then number ≤ 0 else 0 ≤ number) :=
    ⟨fun h => ⟨hdiv.mpr ⟨h.least, h.below⟩, h.sign⟩, fun h => ⟨(hdiv.mp h.1).1, (hdiv.mp h.1).2, h.2⟩⟩
  rw [hwhole, truncate]
  clear hdiv hwhole
  generalize units / one = whole
  cases negative with
  | false =>
    simp only [Bool.false_eq_true, if_false]
    omega
  | true =>
    simp only [if_true]
    omega

namespace Config

/-- What a value is in a field of one octet: an integer, or a text that spells one in either base. -/
inductive OctetOf : Value → Int → Prop where
  | integer {number : Int} : OctetOf (.integer number) number
  | text {text : String} {number : Int} : Numeral.SpellsEither text.toList number → OctetOf (.text text) number

/-- What a value is as a port: an integer, a truth value as one or zero, the whole part of a finite number, or the integer that a text
spells in decimal. -/
inductive PortOf : Value → Int → Prop where
  | integer {number : Int} : PortOf (.integer number) number
  | boolean {truth : Bool} : PortOf (.boolean truth) (if truth then 1 else 0)
  | real {negative : Bool} {units : Nat} {number : Int} : Binary64.WholePart negative units number →
      PortOf (.real (.finite negative units)) number
  | text {text : String} {number : Int} : Numeral.Spells text.toList number → PortOf (.text text) number

/-- A text that begins with the mark `0x` between white space, its letter in either case. -/
def Marked (text : String) : Prop := ∃ x rest, Around isBlank ('0' :: x :: rest) text.toList ∧ x.toLower = 'x'

section

variable {depth : Nat} {entries : Entries} {name : String} {value : Value} {number standard : Int}

/-- The text of a value spells an octet exactly when the value is an integer or a text that is one. -/
theorem octetOf_iff (h0 : 0 ≤ number) (h255 : number ≤ 255) :
    (∃ text, value.plain depth = .ok text ∧ Numeral.eitherBase? text.toList = some number) ↔ OctetOf value number := by
  constructor
  · rintro ⟨text, ht, hn⟩
    have hspelled := Numeral.eitherBase?_eq_some_iff.mp hn
    rcases Value.text_or_integer ht hspelled with rfl | ⟨m, rfl⟩
    · exact .text hspelled
    · have hnumber : Value.numberText m = .ok text := ht
      obtain ⟨hfits, rfl⟩ := Value.numberText_eq_ok_iff.mp hnumber
      rw [Numeral.eitherBase?_decimal hfits] at hn
      exact Option.some.inj hn ▸ .integer
  · rintro h
    cases h with
    | integer =>
      have hfits : Numeral.fits number = true := Numeral.fits_of_lt h0 (by omega)
      have hnumber : Value.numberText number = .ok (Numeral.decimal number) := Value.numberText_eq_ok_iff.mpr ⟨hfits, rfl⟩
      exact ⟨Numeral.decimal number, hnumber, Numeral.eitherBase?_decimal hfits⟩
    | @text text _ h => exact ⟨text, rfl, Numeral.eitherBase?_eq_some_iff.mpr h⟩

/-- A value is read as the number that it is as a port. -/
theorem numberOf?_eq_some_iff : numberOf? value = some number ↔ PortOf value number := by
  constructor
  · intro h
    unfold numberOf? at h
    split at h
    · exact .text (Numeral.integer?_eq_some_iff.mp h)
    · exact Option.some.inj h ▸ .integer
    · exact Option.some.inj h ▸ .boolean
    · exact .real (Binary64.truncate_eq_iff.mp (Option.some.inj h))
    · nomatch h
  · intro h
    cases h with
    | integer => rfl
    | boolean => rfl
    | real hw => exact congrArg some (Binary64.truncate_eq_iff.mpr hw)
    | text ht => exact Numeral.integer?_eq_some_iff.mpr ht

/-- A given value is accepted as a number of one octet exactly when it is one in 0 to 255. -/
theorem byteField_eq_ok_iff (hg : entries.get? name = some value) :
    byteField depth entries name standard = .ok number ↔ OctetOf value number ∧ 0 ≤ number ∧ number ≤ 255 := by
  rw [byteField_eq_ok_iff_plain hg]
  exact and_congr_left fun hr => octetOf_iff hr.1 hr.2

/-- A given value is accepted as a port exactly when it is one in 1 to 65535. -/
theorem portField_eq_ok_iff [Depths] (hg : entries.get? name = some value) :
    portField entries name standard = .ok number ↔ PortOf value number ∧ 1 ≤ number ∧ number ≤ 65535 := by
  rw [portField_eq_ok_iff_number hg, numberOf?_eq_some_iff]
  exact and_congr_right fun _ => by omega

/-- A value that is accepted as a number of one octet is no truth value and no number of the binary format. -/
theorem plain_of_byteField (h : byteField depth entries name standard = .ok number) :
    (∀ truth, entries.get? name ≠ some (.boolean truth)) ∧ ∀ x, entries.get? name ≠ some (.real x) := by
  constructor
  · intro truth hg
    nomatch ((byteField_eq_ok_iff hg).mp h).1
  · intro x hg
    nomatch ((byteField_eq_ok_iff hg).mp h).1

/-- A text that is accepted as a port does not begin with the mark of hexadecimal numerals. -/
theorem not_marked_of_portField [Depths] {text : String} (hg : entries.get? name = some (.text text))
    (h : portField entries name standard = .ok number) : ¬Marked text := by
  rintro ⟨x, rest, ⟨before, after, htext, -, -⟩, hx⟩
  cases ((portField_eq_ok_iff hg).mp h).1 with
  | text hspelled =>
    refine hspelled.no_mark hx ?_
    rw [htext]
    simp

end

/-- Settings whose other fields are made. As the type or the length a value is accepted exactly when it is an integer or a text that
spells one in either base, from 0 to 255; as the port exactly when it is an integer, a truth value, a finite number with a whole part
or a text in decimal, from 1 to 65535. The configuration has this number. So in all accepted settings the three numbers are in
their ranges, the type and the length are no truth values and no numbers of the binary format, and no port is a text with the mark of
hexadecimal numerals. -/
theorem number_of_loaded [Depths] (entries : Entries) :
    (∀ value base, Gives entries "type_id" value base → ∀ config, (load (.table entries)).outcome = .ok config ↔
      ∃ number, (OctetOf value number ∧ 0 ≤ number ∧ number ≤ 255) ∧ config = { base with typeId := number }) ∧
    (∀ value base, Gives entries "uid_length" value base → ∀ config, (load (.table entries)).outcome = .ok config ↔
      ∃ number, (OctetOf value number ∧ 0 ≤ number ∧ number ≤ 255) ∧ config = { base with uidLength := number }) ∧
    (∀ value base, Gives entries "drcom_port" value base → ∀ config, (load (.table entries)).outcome = .ok config ↔
      ∃ number, (PortOf value number ∧ 1 ≤ number ∧ number ≤ 65535) ∧ config = { base with port := number }) ∧
    (∀ config, (load (.table entries)).outcome = .ok config →
      (0 ≤ config.typeId ∧ config.typeId ≤ 255) ∧ (0 ≤ config.uidLength ∧ config.uidLength ≤ 255) ∧
      (1 ≤ config.port ∧ config.port ≤ 65535) ∧
      (∀ name ∈ ["type_id", "uid_length"],
        (∀ truth, entries.get? name ≠ some (.boolean truth)) ∧ ∀ x, entries.get? name ≠ some (.real x)) ∧
      ∀ text, entries.get? "drcom_port" = some (.text text) → ¬Marked text) := by
  refine ⟨?_, ?_, ?_, ?_⟩
  · intro value base hg config
    simp only [hg.load_typeId, map_eq_ok, byteField_eq_ok_iff hg.given, eq_comm (a := config)]
  · intro value base hg config
    simp only [hg.load_uidLength, map_eq_ok, byteField_eq_ok_iff hg.given, eq_comm (a := config)]
  · intro value base hg config
    simp only [hg.load_port, map_eq_ok, portField_eq_ok_iff hg.given, eq_comm (a := config)]
  · intro config hok
    have ha : Accepted entries config := load_eq_ok_iff.mp hok
    have hport := portField_range (by decide) ha.port
    refine ⟨byteField_range (by decide) ha.typeId, byteField_range (by decide) ha.uidLength, by omega, ?_, ?_⟩
    · intro name hn
      rw [List.mem_cons, List.mem_singleton] at hn
      rcases hn with rfl | rfl
      · exact plain_of_byteField ha.typeId
      · exact plain_of_byteField ha.uidLength
    · exact fun text hg => not_marked_of_portField hg ha.port

open scoped Depths

/-- Settings with a type in hexadecimal between blanks and with a truth value as the port. -/
def markedSettings : Entries :=
  [("type_id", .text "\t0X_1f "), ("host_ip", .text "10.0.0.1"), ("uid_length", .integer 4), ("drcom_port", .boolean true)]

/-- The configuration of the same settings without a type. -/
def markedBase : Config := { host := ⟨0x0A000001⟩, uidLength := 4, port := 1 }

/-- The type in hexadecimal is accepted as the number that it spells. -/
theorem number_of_markedSettings : Gives markedSettings "type_id" (.text "\t0X_1f ") markedBase ∧
    (load (.table markedSettings)).outcome = .ok { markedBase with typeId := 31 } := by
  have hlength : byteField Depths.uidLength (without markedSettings "type_id") "uid_length" Heartbeat.defaultUidLength =
      .ok 4 :=
    (byteField_eq_ok_iff rfl).mpr ⟨.integer, by decide, by decide⟩
  have hg : Gives markedSettings "type_id" (.text "\t0X_1f ") markedBase :=
    ⟨rfl, load_eq_ok_iff.mpr ⟨rfl, rfl, rfl, hlength, rfl, rfl⟩⟩
  have hspelled : Numeral.SpellsEither "\t0X_1f ".toList 31 := Numeral.eitherBase?_eq_some_iff.mp rfl
  exact ⟨hg, ((number_of_loaded markedSettings).1 _ _ hg _).mpr ⟨31, ⟨.text hspelled, by decide, by decide⟩, rfl⟩⟩

end Config

end Keepalive
