import Keepalive.Proofs.Config.Settings
import Keepalive.Proofs.Heartbeat.Layout

/-!
# Heartbeats of accepted configurations

An accepted configuration gives every heartbeat of a session its address, its small numbers and its hardware address. The numbers
and the address always pass the checks of a heartbeat. The hardware address passes when its text holds no blanks, and the
packet then carries the configuration (`Carries`). With blanks it has fewer than six octets, and the configuration makes no
heartbeat at all (`beat_of_loaded`).
-/

namespace Keepalive.Config

open Outcome Heartbeat

/-- A packet carries what a configuration says of its host. -/
structure Carries (config : Config) (packet : Bytes) : Prop where
  mac : packet.slice 6 6 = config.mac
  host : packet.slice 12 4 = config.host.bytes
  typeId : packet[4]?.map (fun octet => (octet.toNat : Int)) = some config.typeId
  uidLength : packet[5]?.map (fun octet => (octet.toNat : Int)) = some config.uidLength

/-- A heartbeat with the fields of a configuration carries it in its packet. -/
theorem carries_packet {config : Config} {h : Heartbeat} {sequence : Int} {flag : Flag} {seed : Int}
    (hf : (Draft.ofConfig config sequence flag seed).Fits h) : Carries config h.packet where
  mac := h.slice_mac.trans hf.mac.symm
  host := h.slice_source.trans (congrArg Address.bytes (Except.ok.inj hf.source).symm)
  typeId := by
    rw [h.layout_packet.typeId]
    exact congrArg some hf.typeId.symm
  uidLength := by
    rw [h.layout_packet.uidLength]
    exact congrArg some hf.uidLength.symm

/-- The small numbers of an accepted configuration pass the checks of a heartbeat, whose hardware address decides. -/
theorem check_of_accepted [Depths] {entries : Entries} {config : Config} (ha : Accepted entries config) {sequence seed : Int}
    (hsequence : 0 ≤ sequence ∧ sequence ≤ 255) (hseed : 0 ≤ seed ∧ seed < 2 ^ 32) (flag : Flag) :
    ∃ beat : Mac → Heartbeat, (Draft.ofConfig config sequence flag seed).check = beat <$> Heartbeat.macField config.mac := by
  have htype := byteField_range (by decide) ha.typeId
  have hlength := byteField_range (by decide) ha.uidLength
  obtain ⟨sequence, rfl⟩ := exists_octet hsequence
  obtain ⟨seed, rfl⟩ := exists_word hseed
  obtain ⟨typeId, htype⟩ := exists_octet htype
  obtain ⟨uidLength, hlength⟩ := exists_octet hlength
  refine ⟨fun mac => ⟨sequence, config.host, flag, seed, typeId, uidLength, mac⟩, ?_⟩
  have hcheck : (Draft.ofConfig config sequence.toNat flag seed.toNat).check = _ := check_of_numbers rfl htype hlength rfl
  rw [hcheck]
  show (Heartbeat.macField config.mac >>= _) = _
  cases Heartbeat.macField config.mac <;> rfl

/-- What comes of an accepted configuration: its hardware address and the blanks in the text that spells it make up twelve
characters. Without blanks every sequence number, flag and seed make a heartbeat, which is sent and carries the configuration.
With blanks none do, since octets are missing. -/
theorem beat_of_loaded [Depths] (entries : Entries) (config : Config)
    (hload : (load (.table entries)).outcome = .ok config) (sequence seed : Int) (flag : Flag)
    (hsequence : 0 ≤ sequence ∧ sequence ≤ 255) (hseed : 0 ≤ seed ∧ seed < 2 ^ 32) :
    2 * config.mac.length + blanks entries "mac" = 12 ∧
      (blanks entries "mac" = 0 → ∃ h packet, (Draft.ofConfig config sequence flag seed).check = .ok h ∧
        h.encode = .ok packet ∧ Carries config packet) ∧
      (0 < blanks entries "mac" → (Draft.ofConfig config sequence flag seed).check = .error (.macLength config.mac)) := by
  have ha : Accepted entries config := load_eq_ok_iff.mp hload
  have hmac := length_of_macField ha.mac
  obtain ⟨beat, hcheck⟩ := check_of_accepted ha hsequence hseed flag
  refine ⟨hmac, ?_, ?_⟩
  · intro hblanks
    have hl : config.mac.length = macLength := by
      rw [macLength]
      omega
    have hm : Heartbeat.macField config.mac = .ok ⟨config.mac, hl⟩ := macField_eq_ok_iff.mpr rfl
    rw [hm] at hcheck
    have hfits := check_eq_ok_iff.mp hcheck
    exact ⟨beat ⟨config.mac, hl⟩, (beat ⟨config.mac, hl⟩).packet, hcheck, encode_eq _, carries_packet hfits⟩
  · intro hblanks
    have hl : ¬config.mac.length = macLength := by
      rw [macLength]
      omega
    rw [hcheck, Heartbeat.macField, dif_neg hl]
    rfl

open scoped Depths

/-- Settings with separators and a number in hexadecimal. -/
def plainSettings : Entries := [("host_ip", .text "10.0.0.1"), ("mac", .text "00:11-22.33:44:5F"), ("type_id", .text "0x05")]

/-- The configuration of the plain settings. -/
def plainConfig : Config := ⟨⟨0x0A000001⟩, [0x00, 0x11, 0x22, 0x33, 0x44, 0x5F], 5, 0, "", 61440⟩

/-- The plain settings are accepted, and a heartbeat with the greatest sequence number and seed carries them. -/
theorem beat_of_plain : (load (.table plainSettings)).outcome = .ok plainConfig ∧
    ∃ h packet, (Draft.ofConfig plainConfig 255 .later 4294967295).check = .ok h ∧ h.encode = .ok packet ∧
      Carries plainConfig packet := by
  have hmac : macOf? "00:11-22.33:44:5F" = some plainConfig.mac := by decide +kernel
  have ha : Accepted plainSettings plainConfig := ⟨rfl, macField_of_text rfl hmac, rfl, rfl, rfl, rfl⟩
  have hload : (load (.table plainSettings)).outcome = .ok plainConfig := load_eq_ok_iff.mpr ha
  have hblanks : blanks plainSettings "mac" = 0 := by decide +kernel
  exact ⟨hload, (beat_of_loaded plainSettings plainConfig hload 255 4294967295 .later (by decide) (by decide)).2.1 hblanks⟩

/-- Settings whose hardware address ends in two blanks in place of an octet. -/
def blankSettings : Entries := [("host_ip", .text "10.0.0.1"), ("mac", .text "00:11:22:33:44:  ")]

/-- The configuration of the settings with blanks. -/
def blankConfig : Config := ⟨⟨0x0A000001⟩, [0x00, 0x11, 0x22, 0x33, 0x44], 3, 0, "", 61440⟩

/-- The settings with blanks are accepted with five octets, and no heartbeat is made of them. -/
theorem no_beat_of_blanks : (load (.table blankSettings)).outcome = .ok blankConfig ∧ blankConfig.mac.length = 5 ∧
    (Draft.ofConfig blankConfig 0 .first 0).check = .error (.macLength [0x00, 0x11, 0x22, 0x33, 0x44]) := by
  have hmac : macOf? "00:11:22:33:44:  " = some blankConfig.mac := by decide +kernel
  have ha : Accepted blankSettings blankConfig := ⟨rfl, macField_of_text rfl hmac, rfl, rfl, rfl, rfl⟩
  exact ⟨load_eq_ok_iff.mpr ha, rfl, rfl⟩

end Keepalive.Config
