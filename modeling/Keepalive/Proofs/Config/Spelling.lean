import Keepalive.Proofs.Address
import Keepalive.Proofs.Config.Settings
import Keepalive.Proofs.Text.Numeral

/-!
# Configurations in writing

A configuration can be written as six texts, and some of its fields in more than one way (`Config.Spells`): a hardware address in
letters of either case with separators anywhere or nowhere (`Spread`), a small number in decimal or in hexadecimal
(`SpellsOctet`). Each text is taken for the field it spells, so settings that hold the six texts, in whatever order, are accepted
as the configuration (`accepted_of_spells`).
-/

namespace Keepalive

open Outcome Text

/-! ## Hardware addresses -/

/-- Letters and digits, written in either case and with separators between them, before them and behind them. -/
inductive Spread : List Char → List Char → Prop where
  | nil : Spread [] []
  | separator {c : Char} {letters text : List Char} : c ∈ Config.separators → Spread letters text → Spread letters (c :: text)
  | letter {c : Char} {letters text : List Char} : Spread letters text → Spread (c.toLower :: letters) (c :: text)

/-- No hexadecimal digit is a separator, in whatever case it is written. -/
theorem not_separator_of_digit? {c : Char} {d : Nat} (h : Numeral.digit? 16 c = some d) :
    Config.separators.contains c = false := by
  refine Bool.eq_false_iff.mpr fun hc => ?_
  have hm : c ∈ [':', '-', '.'] := List.contains_iff_mem.mp hc
  simp only [List.mem_cons, List.not_mem_nil, or_false] at hm
  rcases hm with rfl | rfl | rfl
  · nomatch h
  · nomatch h
  · nomatch h

/-- Small letters are spread over themselves. -/
theorem Spread.of_small {letters : List Char} (h : ∀ c ∈ letters, c.toLower = c) : Spread letters letters := by
  induction letters with
  | nil => exact .nil
  | cons c letters ih =>
    obtain ⟨hc, hrest⟩ := List.forall_mem_cons.mp h
    have hspread : Spread (c.toLower :: letters) (c :: letters) := .letter (ih hrest)
    rwa [hc] at hspread

/-- Without its separators a text has the letters that are written in it, in one case or the other. -/
theorem Spread.filter {letters text : List Char} (h : Spread letters text)
    (hl : ∀ c ∈ letters, ∃ d, Numeral.digit? 16 c = some d) :
    (text.filter fun c => !Config.separators.contains c).map Char.toLower = letters := by
  induction h with
  | nil => rfl
  | separator hc _ ih =>
    rw [List.filter_cons_of_neg (by rw [List.contains_iff_mem.mpr hc]; exact Bool.false_ne_true)]
    exact ih hl
  | @letter c letters text _ ih =>
    obtain ⟨⟨d, hd⟩, hrest⟩ := List.forall_mem_cons.mp hl
    rw [Numeral.digit?_toLower] at hd
    rw [List.filter_cons_of_pos (by rw [not_separator_of_digit? hd]; rfl), List.map_cons, ih hrest]

/-- A text is spread over the letters that it has without its separators. -/
theorem Spread.of_filter {letters text : List Char}
    (h : (text.filter fun c => !Config.separators.contains c).map Char.toLower = letters) : Spread letters text := by
  induction text generalizing letters with
  | nil =>
    subst h
    exact .nil
  | cons c text ih =>
    cases hc : Config.separators.contains c with
    | true =>
      rw [List.filter_cons_of_neg (by rw [hc]; exact Bool.false_ne_true)] at h
      exact .separator (List.contains_iff_mem.mp hc) (ih h)
    | false =>
      rw [List.filter_cons_of_pos (by rw [hc]; rfl), List.map_cons] at h
      subst h
      exact .letter (ih rfl)

namespace Config

/-- Six octets are read from their digits, in letters of either case, with separators anywhere. -/
theorem macOf?_of_spread {octets : Bytes} {text : String} (hl : octets.length = macLength)
    (h : Spread (Bytes.hexDigits octets) text.toList) : macOf? text = some octets := by
  have hclean := h.filter fun c hc => Bytes.exists_digit_of_mem_hexDigits hc
  have htwelve : (text.toList.filter fun c => !separators.contains c).length = 12 := by
    have hlength := congrArg List.length hclean
    rw [List.length_map, Bytes.length_hexDigits, hl] at hlength
    exact hlength
  rw [macOf?]
  exact (if_pos htwelve).trans (Bytes.Spelled.of_hexDigits hclean).ofHex?_eq

/-! ## Numbers -/

/-- A text spells a number in decimal, or in hexadecimal with any zeros in front, in letters of either case. -/
inductive SpellsOctet (number : Int) : String → Prop where
  | decimal : SpellsOctet number (Numeral.decimal number)
  | hexadecimal {text : String} (width : Nat)
      (digits : text.toList.map Char.toLower = '0' :: 'x' :: Numeral.padded width (Nat.toDigits 16 number.toNat)) :
      SpellsOctet number text

/-- A text that spells an octet is read as it. -/
theorem eitherBase?_of_spells {number : Int} {text : String} (h0 : 0 ≤ number) (h255 : number ≤ 255)
    (h : SpellsOctet number text) : Numeral.eitherBase? text.toList = some number := by
  cases h with
  | decimal => exact Numeral.eitherBase?_decimal (Numeral.fits_of_lt h0 (by omega))
  | hexadecimal width digits =>
    rw [Numeral.eitherBase?_of_hexadecimal digits, Int.toNat_of_nonneg h0]

/-! ## Fields -/

section

variable {entries : Entries} {name : String}

/-- A text that spells an octet is accepted as it. -/
theorem byteField_of_text {depth : Nat} {text : String} {number standard : Int} (hg : entries.get? name = some (.text text))
    (h0 : 0 ≤ number) (h255 : number ≤ 255) (h : SpellsOctet number text) :
    byteField depth entries name standard = .ok number := by
  have ht : textOf depth (.text text) = .ok text := rfl
  rw [byteField, hg]
  simp only [ht, ok_bind, eitherBase?_of_spells h0 h255 h, h0, h255, and_self, if_true]
  rfl

variable [Depths]

/-- The dotted text of an address is accepted as it. -/
theorem hostField_of_text {address : Address} (hg : entries.get? name = some (.text address.dotted)) :
    hostField entries name = .ok address := by
  have ht : (Value.text address.dotted).plain Depths.host = .ok address.dotted := rfl
  rw [hostField_of_plain hg ht, address.ofText_dotted]

/-- Any text is accepted as a server's address. -/
theorem serverField_of_text {text : String} (hg : entries.get? name = some (.text text)) :
    serverField entries name = .ok text := by
  rw [serverField, hg]
  rfl

/-- A port in decimal is accepted. -/
theorem portField_of_text {number standard : Int} (hg : entries.get? name = some (.text (Numeral.decimal number)))
    (h0 : 0 < number) (h : number < 65536) : portField entries name standard = .ok number := by
  have hn : numberOf? (.text (Numeral.decimal number)) = some number :=
    Numeral.integer?_decimal (Numeral.fits_of_lt (Int.le_of_lt h0) (by omega))
  rw [portField, hg]
  simp only [hn, h0, h, and_self, if_true]
  rfl

end

/-! ## Whole configurations -/

/-- What every configuration holds that is any use: six octets of hardware address, two octets and a port. -/
structure WellFormed (config : Config) : Prop where
  mac : config.mac.length = macLength
  typeId : 0 ≤ config.typeId ∧ config.typeId ≤ 255
  uidLength : 0 ≤ config.uidLength ∧ config.uidLength ≤ 255
  port : 0 < config.port ∧ config.port < 65536

/-- The six fields of a configuration in writing. -/
structure Texts where
  host : String
  mac : String
  typeId : String
  uidLength : String
  server : String
  port : String

/-- The texts as settings. -/
def Texts.entries (texts : Texts) : Entries :=
  [("host_ip", .text texts.host), ("mac", .text texts.mac), ("type_id", .text texts.typeId),
    ("uid_length", .text texts.uidLength), ("server_ip", .text texts.server), ("drcom_port", .text texts.port)]

/-- Texts spell a configuration, field by field. -/
structure Spells (config : Config) (texts : Texts) : Prop where
  host : texts.host = config.host.dotted
  mac : Spread (Bytes.hexDigits config.mac) texts.mac.toList
  typeId : SpellsOctet config.typeId texts.typeId
  uidLength : SpellsOctet config.uidLength texts.uidLength
  server : texts.server = config.server
  port : texts.port = Numeral.decimal config.port

/-- Two tables of settings have the same names, with the same values, in whatever order. -/
def SameSettings (entries others : Entries) : Prop := ∀ name, entries.get? name = others.get? name

/-- Settings that hold the texts of a configuration, and nothing else, are accepted as it. -/
theorem accepted_of_spells [Depths] {config : Config} {texts : Texts} {entries : Entries} (hw : config.WellFormed)
    (hs : Spells config texts) (he : SameSettings entries texts.entries) : Accepted entries config where
  host := hostField_of_text ((he "host_ip").trans (by rw [← hs.host]; rfl))
  mac := macField_of_text (he "mac") (macOf?_of_spread hw.mac hs.mac)
  typeId := byteField_of_text (he "type_id") hw.typeId.1 hw.typeId.2 hs.typeId
  uidLength := byteField_of_text (he "uid_length") hw.uidLength.1 hw.uidLength.2 hs.uidLength
  server := serverField_of_text ((he "server_ip").trans (by rw [← hs.server]; rfl))
  port := portField_of_text ((he "drcom_port").trans (by rw [← hs.port]; rfl)) hw.port.1 hw.port.2

end Config

end Keepalive
