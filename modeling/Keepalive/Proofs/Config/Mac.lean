import Keepalive.Proofs.Config.Settings

/-!
# Hardware addresses in settings

A text spells a hardware address when without its separators it has twelve characters and spells octets (`Config.SpellsMac`).
Just these texts are accepted, whatever value they are the text of, and any other is rejected (`mac_of_loaded`). Where the
separators stand makes no difference (`Respaced.filter_eq`).
-/

namespace Keepalive.Config

open Outcome Text

/-- A text without its separators. -/
def bare (text : String) : List Char := text.toList.filter fun c => !separators.contains c

/-- Two texts that are the same but for separators, wherever these stand. -/
inductive Respaced : List Char → List Char → Prop where
  | nil : Respaced [] []
  | same {c : Char} {s t : List Char} : Respaced s t → Respaced (c :: s) (c :: t)
  | removed {c : Char} {s t : List Char} : c ∈ separators → Respaced s t → Respaced (c :: s) t
  | inserted {c : Char} {s t : List Char} : c ∈ separators → Respaced s t → Respaced s (c :: t)

/-- A text spells a hardware address: without its separators it has twelve characters and spells octets. -/
structure SpellsMac (text : String) (octets : Bytes) : Prop where
  twelve : (bare text).length = 12
  spelled : Bytes.Spelled octets (bare text)

/-- Texts that are the same but for separators are the same without them. -/
theorem Respaced.filter_eq {s t : List Char} (h : Respaced s t) :
    (s.filter fun c => !separators.contains c) = t.filter fun c => !separators.contains c := by
  have hdrop : ∀ {c : Char} (s : List Char), c ∈ separators →
      ((c :: s).filter fun c => !separators.contains c) = s.filter fun c => !separators.contains c := fun s hc =>
    List.filter_cons_of_neg (by rw [List.contains_iff_mem.mpr hc]; exact Bool.false_ne_true)
  induction h with
  | nil => rfl
  | same _ ih => rw [List.filter_cons, List.filter_cons, ih]
  | removed hc _ ih => rw [hdrop _ hc, ih]
  | inserted hc _ ih => rw [hdrop _ hc, ih]

/-- Just the texts that spell a hardware address are read as one. -/
theorem macOf?_eq_some_iff {text : String} {octets : Bytes} : macOf? text = some octets ↔ SpellsMac text octets := by
  rw [macOf?]
  split
  · rename_i htwelve
    exact Bytes.ofHex?_eq_some_iff.trans ⟨fun h => ⟨htwelve, h⟩, fun h => h.spelled⟩
  · rename_i htwelve
    constructor
    · intro h
      cases h
    · exact fun h => absurd h.twelve htwelve

/-- A hardware address has six octets, less one for each two blanks in its text. -/
theorem SpellsMac.length {text : String} {octets : Bytes} (h : SpellsMac text octets) :
    octets.length = 6 - (bare text).countP isNarrowBlank / 2 ∧ (bare text).countP isNarrowBlank % 2 = 0 := by
  have hlength := h.spelled.length
  rw [h.twelve] at hlength
  omega

/-- Where the separators stand makes no difference. -/
theorem SpellsMac.respaced {text text' : String} {octets : Bytes} (hr : Respaced text.toList text'.toList) :
    SpellsMac text octets ↔ SpellsMac text' octets := by
  have hbare : bare text = bare text' := hr.filter_eq
  constructor
  · exact fun h => ⟨hbare ▸ h.twelve, hbare ▸ h.spelled⟩
  · exact fun h => ⟨hbare ▸ h.twelve, hbare ▸ h.spelled⟩

section

variable [Depths]

/-- Settings whose other fields are made are accepted exactly when the text of their hardware address spells one, and then with the
octets that it spells. -/
theorem Gives.load_mac_eq_ok_iff {entries : Entries} {value : Value} {text : String} {base config : Config}
    (hg : Gives entries "mac" value base) (ht : value.plain Depths.mac = .ok text) :
    (load (.table entries)).outcome = .ok config ↔ ∃ octets, SpellsMac text octets ∧ config = { base with mac := octets } := by
  rw [hg.load_mac, macField_of_plain hg.given ht, map_eq_ok]
  constructor
  · rintro ⟨octets, hm, rfl⟩
    cases hspelled : macOf? text with
    | none =>
      rw [hspelled] at hm
      nomatch hm
    | some spelled =>
      rw [hspelled] at hm
      exact ⟨octets, macOf?_eq_some_iff.mp (hspelled.trans (congrArg some (Except.ok.inj hm))), rfl⟩
  · rintro ⟨octets, hm, rfl⟩
    exact ⟨octets, by rw [macOf?_eq_some_iff.mpr hm], rfl⟩

/-- Settings with a value for the hardware address and other fields that are made. They are accepted exactly when the text of the
value has twelve characters without its separators and spells octets; the configuration has these octets, six less one for each
two blanks. Any other value is rejected. Texts that are the same but for separators, even inside a pair of digits, are accepted
alike and with the same octets, whatever values they are the texts of. -/
theorem mac_of_loaded (entries : Entries) (value : Value) (text : String) (base : Config) (hg : Gives entries "mac" value base)
    (ht : value.plain Depths.mac = .ok text) :
    (∀ config, (load (.table entries)).outcome = .ok config ↔
      ∃ octets, SpellsMac text octets ∧ config = { base with mac := octets }) ∧
    (∀ octets, SpellsMac text octets → octets.length = 6 - (bare text).countP isNarrowBlank / 2 ∧
      (bare text).countP isNarrowBlank % 2 = 0) ∧
    ((∀ octets, ¬SpellsMac text octets) → (load (.table entries)).outcome = .error (.rejected (.badMac text))) ∧
    (∀ (others : Entries) (value' : Value) (text' : String), Gives others "mac" value' base → value'.plain Depths.mac = .ok text' →
      Respaced text.toList text'.toList →
      ∀ config, (load (.table entries)).outcome = .ok config ↔ (load (.table others)).outcome = .ok config) := by
  refine ⟨fun config => hg.load_mac_eq_ok_iff ht, fun octets h => h.length, fun hnone => ?_, ?_⟩
  · have hmac : macOf? text = none := by
      rw [Option.eq_none_iff_forall_not_mem]
      exact fun octets h => hnone octets (macOf?_eq_some_iff.mp h)
    rw [hg.load_mac, macField_of_plain hg.given ht, hmac]
    rfl
  · intro others value' text' hg' ht' hr config
    rw [hg.load_mac_eq_ok_iff ht, hg'.load_mac_eq_ok_iff ht']
    exact exists_congr fun octets => and_congr_left fun _ => SpellsMac.respaced hr

end

open scoped Depths

/-- Settings with separators inside pairs of digits and two blanks in place of an octet. -/
def pairSettings : Entries :=
  [("mac", .text "aA-b:B \tc.C--00:0d"), ("host_ip", .text "10.0.0.1"), ("type_id", .text "0x05")]

/-- The configuration of the same settings without a hardware address. -/
def pairBase : Config := { host := ⟨0x0A000001⟩, typeId := 5 }

/-- The settings with separators inside pairs are accepted with the five octets that they spell. -/
theorem mac_of_pairSettings : Gives pairSettings "mac" (.text "aA-b:B \tc.C--00:0d") pairBase ∧
    (load (.table pairSettings)).outcome = .ok { pairBase with mac := [0xAA, 0xBB, 0xCC, 0x00, 0x0D] } := by
  have hg : Gives pairSettings "mac" (.text "aA-b:B \tc.C--00:0d") pairBase :=
    ⟨rfl, load_eq_ok_iff.mpr ⟨rfl, rfl, rfl, rfl, rfl, rfl⟩⟩
  have hspelled : Bytes.Spelled [0xAA, 0xBB, 0xCC, 0x00, 0x0D] (bare "aA-b:B \tc.C--00:0d") :=
    .pair rfl (.pair rfl (.blank rfl (.blank rfl (.pair rfl (.pair rfl (.pair rfl .nil))))))
  exact ⟨hg, ((mac_of_loaded pairSettings _ _ pairBase hg rfl).1 _).mpr ⟨_, ⟨rfl, hspelled⟩, rfl⟩⟩

end Keepalive.Config
