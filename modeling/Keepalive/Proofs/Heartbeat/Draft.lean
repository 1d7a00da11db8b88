import Keepalive.Packet.Heartbeat
import Keepalive.Proofs.Bytes.Places
import Keepalive.Proofs.Outcome

/-!
# Drafts that make a heartbeat

A draft passes the checks exactly when a heartbeat has its fields (`check_eq_ok_iff`): the small numbers are octets, the seed is
a word, the hardware address has six octets and the address can be read. Every heartbeat comes from a draft (`check_draft`).
-/

namespace Keepalive

open Outcome

/-- A number makes a field of one octet exactly when it is the octet's. -/
theorem octetField_eq_ok_iff {name : String} {value : Int} {b : UInt8} :
    octetField name value = .ok b ↔ value = b.toNat := by
  constructor
  · intro h
    rw [octetField] at h
    split at h
    · rename_i hv
      have hb : UInt8.ofNat value.toNat = b := Except.ok.inj h
      have hlt : value.toNat < UInt8.size := by
        simp only [UInt8.size]
        omega
      rw [← hb, UInt8.toNat_ofNat_of_lt' hlt]
      omega
    · cases h
  · rintro rfl
    exact octetField_toNat name b

/-- The numbers in 0 to 255 are those of octets. -/
theorem exists_octet {value : Int} (h : 0 ≤ value ∧ value ≤ 255) : ∃ b : UInt8, value = b.toNat :=
  ⟨UInt8.ofNat value.toNat, octetField_eq_ok_iff.mp (if_pos h : octetField "" value = _)⟩

namespace Heartbeat

/-- A number makes a seed exactly when it is the word's. -/
theorem seedField_eq_ok_iff {value : Int} {seed : UInt32} : seedField value = .ok seed ↔ value = seed.toNat := by
  constructor
  · intro h
    rw [seedField] at h
    split at h
    · rename_i hv
      have hs : UInt32.ofNat value.toNat = seed := Except.ok.inj h
      have hlt : value.toNat < UInt32.size := by omega
      rw [← hs, UInt32.toNat_ofNat_of_lt' hlt]
      omega
    · cases h
  · rintro rfl
    have h : 0 ≤ (seed.toNat : Int) ∧ (seed.toNat : Int) < UInt32.size := by
      have := seed.toNat_lt
      simp only [UInt32.size]
      omega
    rw [seedField, if_pos h, Int.toNat_natCast, UInt32.ofNat_toNat]

/-- The numbers below 2^32 are those of words. -/
theorem exists_word {value : Int} (h : 0 ≤ value ∧ value < 2 ^ 32) : ∃ seed : UInt32, value = seed.toNat :=
  ⟨UInt32.ofNat value.toNat, seedField_eq_ok_iff.mp (if_pos h)⟩

/-- Octets make a hardware address exactly when they are its own. -/
theorem macField_eq_ok_iff {octets : Bytes} {mac : Mac} : macField octets = .ok mac ↔ octets = mac.bytes := by
  constructor
  · intro h
    rw [macField] at h
    split at h
    · rw [← Except.ok.inj h]
    · cases h
  · rintro rfl
    rw [macField, dif_pos mac.length_bytes]

/-- The fields of a draft are those of a heartbeat. -/
structure Draft.Fits (draft : Draft) (h : Heartbeat) : Prop where
  sequence : draft.sequence = h.sequence.toNat
  source : draft.source.read = .ok h.source
  flag : draft.flag = h.flag
  seed : draft.seed = h.seed.toNat
  typeId : draft.typeId = h.typeId.toNat
  uidLength : draft.uidLength = h.uidLength.toNat
  mac : draft.mac = h.mac.bytes

/-- A draft passes the checks exactly when the heartbeat has its fields. -/
theorem check_eq_ok_iff {draft : Draft} {h : Heartbeat} : draft.check = .ok h ↔ draft.Fits h := by
  constructor
  · intro hc
    simp only [Draft.check, bind_eq_ok, pure_eq_ok] at hc
    obtain ⟨sequence, h1, typeId, h2, uidLength, h3, seed, h4, mac, h5, source, h6, rfl⟩ := hc
    exact ⟨octetField_eq_ok_iff.mp h1, mapError_eq_ok.mp h6, rfl, seedField_eq_ok_iff.mp h4, octetField_eq_ok_iff.mp h2,
      octetField_eq_ok_iff.mp h3, macField_eq_ok_iff.mp h5⟩
  · intro hf
    simp only [Draft.check, bind_eq_ok, pure_eq_ok]
    refine ⟨h.sequence, octetField_eq_ok_iff.mpr hf.sequence, h.typeId, octetField_eq_ok_iff.mpr hf.typeId, h.uidLength,
      octetField_eq_ok_iff.mpr hf.uidLength, h.seed, seedField_eq_ok_iff.mpr hf.seed, h.mac,
      macField_eq_ok_iff.mpr hf.mac, h.source, mapError_eq_ok.mpr hf.source, ?_⟩
    rw [hf.flag]

/-- When the numbers are those of octets and of a word, the hardware address is checked next and the address last. -/
theorem check_of_numbers {draft : Draft} {sequence typeId uidLength : UInt8} {seed : UInt32}
    (hsequence : draft.sequence = sequence.toNat) (htype : draft.typeId = typeId.toNat)
    (hlength : draft.uidLength = uidLength.toNat) (hseed : draft.seed = seed.toNat) :
    draft.check = (do
      let mac ← macField draft.mac
      let source ← sourceField draft.source
      pure ⟨sequence, source, draft.flag, seed, typeId, uidLength, mac⟩) := by
  rw [Draft.check, octetField_eq_ok_iff.mpr hsequence, ok_bind, octetField_eq_ok_iff.mpr htype, ok_bind,
    octetField_eq_ok_iff.mpr hlength, ok_bind, seedField_eq_ok_iff.mpr hseed, ok_bind]

/-- The fields of a heartbeat, given as numbers and octets. -/
def draft (h : Heartbeat) : Draft where
  sequence := h.sequence.toNat
  source := .address h.source
  flag := h.flag
  seed := h.seed.toNat
  typeId := h.typeId.toNat
  uidLength := h.uidLength.toNat
  mac := h.mac.bytes

/-- Every heartbeat is made by a draft: its own fields. -/
theorem check_draft (h : Heartbeat) : h.draft.check = .ok h :=
  check_eq_ok_iff.mpr ⟨rfl, rfl, rfl, rfl, rfl, rfl, rfl⟩

end Heartbeat

end Keepalive
