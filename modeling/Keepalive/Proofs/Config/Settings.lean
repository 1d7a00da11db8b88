import Keepalive.Config.Document
import Keepalive.Proofs.Bytes.Hex
import Keepalive.Proofs.Journal
import Keepalive.Proofs.Outcome

/-!
# What accepted settings hold

Settings make a configuration exactly when each of its fields can be made of them (`ofEntries_eq_ok_iff`). A number of one octet
is then in 0 to 255 (`byteField_range`). A hardware address is written with twelve characters apart from separators. Blanks
count among these but spell nothing, so each pair of them takes the place of an octet (`length_of_macField`). Where the settings of
the other names are accepted, what becomes of the whole is decided by the one left (`Gives.load_mac`).
-/

namespace Keepalive

open Outcome Text

namespace Config

/-! ## Single fields -/

/-- A separator is no blank. -/
theorem not_isNarrowBlank_of_separator {c : Char} (h : separators.contains c = true) : isNarrowBlank c = false := by
  have hm : c ∈ separators := List.contains_iff_mem.mp h
  simp only [separators, List.mem_cons, List.not_mem_nil, or_false] at hm
  rcases hm with rfl | rfl | rfl
  · rfl
  · rfl
  · rfl

/-- The twelve characters of a hardware address are two for each octet, and blanks. -/
theorem length_of_macOf? {text : String} {octets : Bytes} (h : macOf? text = some octets) :
    2 * octets.length + text.toList.countP isNarrowBlank = 12 := by
  rw [macOf?] at h
  split at h
  · rename_i hclean
    have hl := (Bytes.spelled_of_ofHex? h).length
    -- no blank is lost with the separators
    have hblanks : (text.toList.filter fun c => !separators.contains c).countP isNarrowBlank =
        text.toList.countP isNarrowBlank := by
      rw [List.countP_filter]
      refine List.countP_congr fun c _ => ?_
      cases hs : separators.contains c with
      | false => simp
      | true => simp [not_isNarrowBlank_of_separator hs]
    rw [hclean, hblanks] at hl
    exact hl.symm
  · nomatch h

/-- Settings but for those of a name. -/
def without (entries : Entries) (name : String) : Entries := entries.filter fun entry => entry.1 != name

/-- The settings of the other names are still there. -/
theorem get?_without (entries : Entries) {name other : String} (h : other ≠ name) :
    (without entries name).get? other = entries.get? other := by
  induction entries with
  | nil => rfl
  | cons entry entries ih =>
    obtain ⟨key, value⟩ := entry
    by_cases hk : key = name
    · have hne : (other == key) = false := beq_false_of_ne (hk ▸ h)
      rw [without, List.filter_cons_of_neg (by simp [hk]), ← without, ih, Entries.get?, Entries.get?, List.lookup_cons, hne]
    · rw [without, List.filter_cons_of_pos (by simp [hk]), ← without]
      rw [Entries.get?, Entries.get?] at ih ⊢
      rw [List.lookup_cons, List.lookup_cons, ih]

/-- A number of one octet is accepted exactly when the text of its value spells it and it is in 0 to 255. -/
theorem byteField_eq_ok_iff_plain {depth : Nat} {entries : Entries} {name : String} {value : Value} {standard number : Int}
    (hg : entries.get? name = some value) :
    byteField depth entries name standard = .ok number ↔
      (∃ text, value.plain depth = .ok text ∧ Numeral.eitherBase? text.toList = some number) ∧ 0 ≤ number ∧ number ≤ 255 := by
  rw [byteField, hg]
  constructor
  · intro h
    obtain ⟨text, ht, h⟩ := bind_eq_ok.mp h
    cases hn : Numeral.eitherBase? text.toList with
    | none =>
      rw [hn] at h
      nomatch h
    | some spelled =>
      simp only [hn] at h
      by_cases hr : 0 ≤ spelled ∧ spelled ≤ 255
      · rw [if_pos hr] at h
        obtain rfl := pure_eq_ok.mp h
        exact ⟨⟨text, mapError_eq_ok.mp ht, hn⟩, hr⟩
      · rw [if_neg hr] at h
        nomatch h
  · rintro ⟨⟨text, ht, hn⟩, hr⟩
    have htext : textOf depth value = .ok text := mapError_eq_ok.mpr ht
    simp only [htext, ok_bind, hn, if_pos hr]
    rfl

/-- An accepted number of one octet is in 0 to 255, if the one that stands in for it is. -/
theorem byteField_range {depth : Nat} {entries : Entries} {name : String} {standard number : Int}
    (hs : 0 ≤ standard ∧ standard ≤ 255) (h : byteField depth entries name standard = .ok number) :
    0 ≤ number ∧ number ≤ 255 := by
  cases hg : entries.get? name with
  | none =>
    rw [byteField, hg] at h
    rwa [← pure_eq_ok.mp h]
  | some value => exact ((byteField_eq_ok_iff_plain hg).mp h).2

section

variable [Depths]

/-- The blanks in the text of a hardware address; none when it is absent or has no text. -/
def blanks (entries : Entries) (name : String) : Nat :=
  match entries.get? name with
  | none => 0
  | some value =>
    match textOf Depths.mac value with
    | .ok text => text.toList.countP isNarrowBlank
    | .error _ => 0

/-- An accepted hardware address and the blanks in its text make up twelve characters. -/
theorem length_of_macField {entries : Entries} {name : String} {octets : Bytes} (h : macField entries name = .ok octets) :
    2 * octets.length + blanks entries name = 12 := by
  rw [macField] at h
  rw [blanks]
  cases hg : entries.get? name with
  | none =>
    rw [hg] at h
    rw [← pure_eq_ok.mp h]
    rfl
  | some value =>
    rw [hg] at h
    obtain ⟨text, ht, h⟩ := bind_eq_ok.mp h
    simp only [ht]
    cases hm : macOf? text with
    | none =>
      rw [hm] at h
      nomatch h
    | some spelled =>
      rw [hm] at h
      rw [← pure_eq_ok.mp h]
      exact length_of_macOf? hm

/-- The host's address is made of the text of its value. -/
theorem hostField_of_plain {entries : Entries} {name text : String} {value : Value} (hg : entries.get? name = some value)
    (ht : value.plain Depths.host = .ok text) :
    hostField entries name = (match Address.ofText text with
      | .ok address => .ok address
      | .error _ => .error (.rejected (.badAddress name text))) := by
  have htext : textOf Depths.host value = .ok text := mapError_eq_ok.mpr ht
  rw [hostField, hg]
  simp only [htext, ok_bind]
  cases Address.ofText text <;> rfl

/-- A hardware address is made of the text of its value. -/
theorem macField_of_plain {entries : Entries} {name text : String} {value : Value} (hg : entries.get? name = some value)
    (ht : value.plain Depths.mac = .ok text) :
    macField entries name = (match macOf? text with
      | some octets => .ok octets
      | none => .error (.rejected (.badMac text))) := by
  have htext : textOf Depths.mac value = .ok text := mapError_eq_ok.mpr ht
  rw [macField, hg]
  simp only [htext, ok_bind]
  cases macOf? text <;> rfl

/-- A text that spells octets is accepted as them. -/
theorem macField_of_text {entries : Entries} {name text : String} {octets : Bytes}
    (hg : entries.get? name = some (.text text)) (hm : macOf? text = some octets) : macField entries name = .ok octets := by
  have ht : (Value.text text).plain Depths.mac = .ok text := rfl
  rw [macField_of_plain hg ht, hm]

/-- A port is accepted exactly when its value stands for it and it is in 1 to 65535. -/
theorem portField_eq_ok_iff_number {entries : Entries} {name : String} {value : Value} {standard number : Int}
    (hg : entries.get? name = some value) :
    portField entries name standard = .ok number ↔ numberOf? value = some number ∧ 0 < number ∧ number < 65536 := by
  rw [portField, hg]
  split
  · rename_i hv
    cases hv
  · -- an infinite number is no port, and it has no text that could be reported
    rename_i hv
    rw [Option.some.inj hv]
    exact ⟨fun h => (nomatch h), fun h => (nomatch h.1)⟩
  · rename_i given _ hv
    rw [Option.some.inj hv]
    cases hn : numberOf? given with
    | none =>
      refine ⟨fun h => ?_, fun h => (nomatch h.1)⟩
      obtain ⟨text, -, h⟩ := bind_eq_ok.mp h
      nomatch h
    | some found =>
      by_cases hr : 0 < found ∧ found < 65536
      · simp only [if_pos hr, pure_eq_ok, Option.some.injEq]
        exact ⟨fun h => ⟨h, h ▸ hr⟩, fun h => h.1⟩
      · simp only [if_neg hr, Option.some.injEq]
        exact ⟨fun h => (nomatch h), fun h => absurd (h.1 ▸ h.2) hr⟩

/-- An accepted port is in 1 to 65535, if the one that stands in for it is. -/
theorem portField_range {entries : Entries} {name : String} {standard number : Int}
    (hs : 0 < standard ∧ standard < 65536) (h : portField entries name standard = .ok number) :
    0 < number ∧ number < 65536 := by
  cases hg : entries.get? name with
  | none =>
    rw [portField, hg] at h
    rwa [← pure_eq_ok.mp h]
  | some value => exact ((portField_eq_ok_iff_number hg).mp h).2

/-! ## All fields -/

/-- Each field of a configuration is made of the settings of its name. -/
structure Accepted (entries : Entries) (config : Config) : Prop where
  host : hostField entries "host_ip" = .ok config.host
  mac : macField entries "mac" = .ok config.mac
  typeId : byteField Depths.typeId entries "type_id" Heartbeat.defaultTypeId = .ok config.typeId
  uidLength : byteField Depths.uidLength entries "uid_length" Heartbeat.defaultUidLength = .ok config.uidLength
  server : serverField entries "server_ip" = .ok config.server
  port : portField entries "drcom_port" defaultPort = .ok config.port

/-- Settings make a configuration exactly when each of its fields is made of them. -/
theorem ofEntries_eq_ok_iff {entries : Entries} {config : Config} :
    ofEntries entries = .ok config ↔ Accepted entries config := by
  simp only [ofEntries, bind_eq_ok, pure_eq_ok]
  constructor
  · rintro ⟨host, h1, mac, h2, typeId, h3, uidLength, h4, server, h5, port, h6, rfl⟩
    exact ⟨h1, h2, h3, h4, h5, h6⟩
  · intro h
    exact ⟨config.host, h.host, config.mac, h.mac, config.typeId, h.typeId, config.uidLength, h.uidLength, config.server,
      h.server, config.port, h.port, rfl⟩

/-- A value makes a configuration exactly when it is a table of settings that are accepted. -/
theorem ofValue_eq_ok_iff {value : Value} {config : Config} :
    ofValue value = .ok config ↔ ∃ entries, value = .table entries ∧ Accepted entries config := by
  unfold ofValue
  split
  · rename_i entries
    rw [ofEntries_eq_ok_iff]
    exact ⟨fun h => ⟨entries, rfl, h⟩, fun ⟨_, he, h⟩ => Value.table.inj he ▸ h⟩
  · rename_i hv
    constructor
    · intro h
      split at h <;> nomatch h
    · rintro ⟨entries, rfl, -⟩
      exact absurd rfl (hv entries)

/-- Loading ends as the configuration of the value does: the record it leaves changes nothing. -/
theorem outcome_load (value : Value) : (load value).outcome = ofValue value := by
  rw [load, Logged.outcome_bind, Logged.outcome_ofExcept]
  cases ofValue value <;> rfl

/-- The record of a configuration that has been loaded. -/
def loaded (config : Config) : Record := ⟨.debug, "配置加载完成: " ++ config.describe⟩

/-- Settings that are accepted leave the record of their configuration. -/
theorem load_of_ok {entries : Entries} {config : Config} (h : ofEntries entries = .ok config) :
    load (.table entries) = ⟨[loaded config], .ok config⟩ := by
  have hvalue : ofValue (.table entries) = .ok config := h
  rw [load, Logged.ofExcept_bind_ok hvalue]
  rfl

/-- Settings that are not accepted leave no record. -/
theorem load_of_error {entries : Entries} {fault : LoadFault} (h : ofEntries entries = .error fault) :
    load (.table entries) = ⟨[], .error fault⟩ := by
  have hvalue : ofValue (.table entries) = .error fault := h
  rw [load, Logged.ofExcept_bind_error hvalue]

/-- A table of settings is loaded as a configuration exactly when each of its fields is made of them. -/
theorem load_eq_ok_iff {entries : Entries} {config : Config} :
    (load (.table entries)).outcome = .ok config ↔ Accepted entries config := by
  rw [outcome_load]
  exact ofEntries_eq_ok_iff

/-! ## One field among the others -/

/-- Settings give a name a value, and without it they are accepted as a configuration. -/
structure Gives (entries : Entries) (name : String) (value : Value) (base : Config) : Prop where
  given : entries.get? name = some value
  others : (load (.table (without entries name))).outcome = .ok base

/-- Each field of a configuration but that of a name is made of the settings of its own. -/
structure AcceptedBut (name : String) (entries : Entries) (config : Config) : Prop where
  host : "host_ip" ≠ name → hostField entries "host_ip" = .ok config.host
  mac : "mac" ≠ name → macField entries "mac" = .ok config.mac
  typeId : "type_id" ≠ name → byteField Depths.typeId entries "type_id" Heartbeat.defaultTypeId = .ok config.typeId
  uidLength : "uid_length" ≠ name → byteField Depths.uidLength entries "uid_length" Heartbeat.defaultUidLength = .ok config.uidLength
  server : "server_ip" ≠ name → serverField entries "server_ip" = .ok config.server
  port : "drcom_port" ≠ name → portField entries "drcom_port" defaultPort = .ok config.port

/-- The fields of the other names are made as without the value. -/
theorem Gives.acceptedBut {entries : Entries} {name : String} {value : Value} {base : Config} (h : Gives entries name value base) :
    AcceptedBut name entries base := by
  have ha : Accepted (without entries name) base := load_eq_ok_iff.mp h.others
  constructor
  · intro hne
    rw [← ha.host, hostField, hostField, get?_without entries hne]
  · intro hne
    rw [← ha.mac, macField, macField, get?_without entries hne]
  · intro hne
    rw [← ha.typeId, byteField, byteField, get?_without entries hne]
  · intro hne
    rw [← ha.uidLength, byteField, byteField, get?_without entries hne]
  · intro hne
    rw [← ha.server, serverField, serverField, get?_without entries hne]
  · intro hne
    rw [← ha.port, portField, portField, get?_without entries hne]

/-- When the other fields are made, the hardware address alone decides. -/
theorem Gives.load_mac {entries : Entries} {value : Value} {base : Config} (h : Gives entries "mac" value base) :
    (load (.table entries)).outcome = (macField entries "mac").map fun octets => { base with mac := octets } := by
  have ha := h.acceptedBut
  rw [outcome_load]
  show ofEntries entries = _
  rw [ofEntries, ha.host (by decide), ha.typeId (by decide), ha.uidLength (by decide), ha.server (by decide), ha.port (by decide)]
  cases macField entries "mac" <;> rfl

/-- When the other fields are made, the type alone decides. -/
theorem Gives.load_typeId {entries : Entries} {value : Value} {base : Config} (h : Gives entries "type_id" value base) :
    (load (.table entries)).outcome =
      (byteField Depths.typeId entries "type_id" Heartbeat.defaultTypeId).map fun number => { base with typeId := number } := by
  have ha := h.acceptedBut
  rw [outcome_load]
  show ofEntries entries = _
  rw [ofEntries, ha.host (by decide), ha.mac (by decide), ha.uidLength (by decide), ha.server (by decide), ha.port (by decide)]
  cases byteField Depths.typeId entries "type_id" Heartbeat.defaultTypeId <;> rfl

/-- When the other fields are made, the length alone decides. -/
theorem Gives.load_uidLength {entries : Entries} {value : Value} {base : Config} (h : Gives entries "uid_length" value base) :
    (load (.table entries)).outcome =
      (byteField Depths.uidLength entries "uid_length" Heartbeat.defaultUidLength).map fun number => { base with uidLength := number } := by
  have ha := h.acceptedBut
  rw [outcome_load]
  show ofEntries entries = _
  rw [ofEntries, ha.host (by decide), ha.mac (by decide), ha.typeId (by decide), ha.server (by decide), ha.port (by decide)]
  cases byteField Depths.uidLength entries "uid_length" Heartbeat.defaultUidLength <;> rfl

/-- When the other fields are made, the port alone decides. -/
theorem Gives.load_port {entries : Entries} {value : Value} {base : Config} (h : Gives entries "drcom_port" value base) :
    (load (.table entries)).outcome =
      (portField entries "drcom_port" defaultPort).map fun number => { base with port := number } := by
  have ha := h.acceptedBut
  rw [outcome_load]
  show ofEntries entries = _
  rw [ofEntries, ha.host (by decide), ha.mac (by decide), ha.typeId (by decide), ha.uidLength (by decide), ha.server (by decide)]
  cases portField entries "drcom_port" defaultPort <;> rfl

end

end Config

end Keepalive
