import Keepalive.Proofs.Address
import Keepalive.Proofs.Config.Settings
import Keepalive.Proofs.Value

/-!
# The host's address in settings

The host's address is made of the text of its value, whatever the value is. But the dotted text of an address holds three points
and otherwise digits, so it is the text of no value but itself (`Value.plain_eq_dotted_iff`). So just the dotted texts, given as
texts, are made the host's address, each the address that is written so (`hostField_eq_ok_iff`), and with any other value no
settings are loaded (`host_of_dotted`).
-/

namespace Keepalive

open Outcome

/-- The dotted text of an address holds digits and points only. -/
theorem Address.not_foreign_dotted (a : Address) : ¬Value.Foreign a.dotted := by
  rintro ⟨c, hc, hpoint, hdigit⟩
  rw [dotted, String.toList_ofList] at hc
  rcases mem_dottedChars hc with h | h
  · exact hpoint h
  · rw [hdigit] at h
    cases h

/-- The dotted text of an address is the text of no value but itself. -/
theorem Value.plain_eq_dotted_iff (room : Nat) {value : Value} {a : Address} :
    value.plain room = .ok a.dotted ↔ value = .text a.dotted := by
  constructor
  · intro h
    rcases plain_cases h with htext | hforeign | hpoints
    · exact htext
    · exact absurd hforeign a.not_foreign_dotted
    · rw [Address.dotted, String.toList_ofList, a.count_point_dottedChars] at hpoints
      omega
  · rintro rfl
    rfl

namespace Config

section

variable [Depths] {entries : Entries} {name : String} {value : Value}

/-- A value is made the host's address exactly when it is the dotted text of the address. -/
theorem hostField_eq_ok_iff {a : Address} (hg : entries.get? name = some value) :
    hostField entries name = .ok a ↔ value = .text a.dotted := by
  rw [← Value.plain_eq_dotted_iff Depths.host]
  constructor
  · intro h
    rw [hostField, hg] at h
    obtain ⟨text, ht, h⟩ := bind_eq_ok.mp h
    cases ha : Address.ofText text with
    | ok b =>
      rw [ha] at h
      rw [mapError_eq_ok.mp ht, ← pure_eq_ok.mp h, Address.ofText_eq_ok_iff.mp ha]
    | error fault =>
      rw [ha] at h
      cases h
  · intro ht
    rw [hostField_of_plain hg ht, a.ofText_dotted]

/-- A value is made the host's address, whichever that is, exactly when it is a text of four octets in decimal. -/
theorem exists_hostField_iff (hg : entries.get? name = some value) :
    (∃ a, hostField entries name = .ok a) ↔ ∃ text, value = .text text ∧ Address.Dotted text := by
  simp only [hostField_eq_ok_iff hg, Address.dotted_iff]
  constructor
  · rintro ⟨a, ha⟩
    exact ⟨_, ha, a, rfl⟩
  · rintro ⟨text, hv, a, rfl⟩
    exact ⟨a, hv⟩

/-- Without the host's address nothing is loaded, whatever the other settings are. -/
theorem load_of_host_error {fault : LoadFault} (h : hostField entries "host_ip" = .error fault) :
    load (.table entries) = ⟨[], .error fault⟩ := by
  refine load_of_error ?_
  rw [ofEntries, h]
  rfl

end

/-- Settings with a value for the host's address that has a text. The value is made an address exactly when it is itself a text
of four octets in decimal with points between them. The address is then the one whose dotted text it is, so no two values are
made the same address. Whatever is loaded of the settings has this address, and the value is its dotted text. With any other
value, of whatever kind, nothing is loaded and the value is rejected, whatever the other settings are. -/
theorem host_of_dotted [Depths] (entries : Entries) (value : Value) (text : String) (hg : entries.get? "host_ip" = some value)
    (ht : value.plain Depths.host = .ok text) :
    ((∃ a, hostField entries "host_ip" = .ok a) ↔ ∃ written, value = .text written ∧ Address.Dotted written) ∧
    (∀ a, hostField entries "host_ip" = .ok a ↔ value = .text a.dotted) ∧
    (∀ (others : Entries) (value' : Value) (a : Address), others.get? "host_ip" = some value' →
      hostField entries "host_ip" = .ok a → hostField others "host_ip" = .ok a → value = value') ∧
    (∀ config, (load (.table entries)).outcome = .ok config → value = .text config.host.dotted) ∧
    ((¬∃ written, value = .text written ∧ Address.Dotted written) →
      load (.table entries) = ⟨[], .error (.rejected (.badAddress "host_ip" text))⟩) := by
  refine ⟨exists_hostField_iff hg, fun a => hostField_eq_ok_iff hg, ?_, ?_, ?_⟩
  · intro others value' a hg' h h'
    rw [(hostField_eq_ok_iff hg).mp h, (hostField_eq_ok_iff hg').mp h']
  · intro config h
    exact (hostField_eq_ok_iff hg).mp (load_eq_ok_iff.mp h).host
  · intro hnone
    refine load_of_host_error ?_
    have hfield := hostField_of_plain hg ht
    cases ha : Address.ofText text with
    | ok a => exact absurd ((exists_hostField_iff hg).mp ⟨a, by rw [hfield, ha]⟩) hnone
    | error fault => rw [hfield, ha]

open scoped Depths

/-- Settings whose host's address is a text, with a wrong number besides. -/
def wrongNumber : Entries := [("type_id", .text "0x1FF"), ("host_ip", .text "192.0.2.10")]

/-- Settings whose host's address is a list of octets. -/
def listedHost : Entries := [("host_ip", .list [.integer 192, .integer 0, .integer 2, .integer 10]), ("mac", .text "none")]

/-- The text is made the host's address, and the list of the same octets is rejected before the hardware address is. -/
theorem host_of_text_or_list :
    hostField wrongNumber "host_ip" = .ok ⟨0xC000020A⟩ ∧
    load (.table listedHost) = ⟨[], .error (.rejected (.badAddress "host_ip" "[192, 0, 2, 10]"))⟩ := by
  have htext : (Value.text "192.0.2.10").plain Depths.host = .ok "192.0.2.10" := rfl
  have hlist : (Value.list [.integer 192, .integer 0, .integer 2, .integer 10]).plain Depths.host = .ok "[192, 0, 2, 10]" := by
    decide +kernel
  refine ⟨((host_of_dotted wrongNumber _ _ rfl htext).2.1 ⟨0xC000020A⟩).mpr (congrArg Value.text (by decide +kernel)), ?_⟩
  refine (host_of_dotted listedHost _ _ rfl hlist).2.2.2.2 ?_
  rintro ⟨written, hwritten, -⟩
  nomatch hwritten

end Config

end Keepalive
