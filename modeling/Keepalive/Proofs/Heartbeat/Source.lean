import Keepalive.Proofs.Challenge.Decoding
import Keepalive.Proofs.Config.Spelling
import Keepalive.Proofs.Heartbeat.Admission

/-!
# The ways of an address into a heartbeat

An address can be given to a heartbeat as its dotted text, as its number and as its four octets, and it can be taken from a
configuration that was loaded from the dotted text and from a response that holds the octets. Whichever way it takes, the packet
is the same (`packet_of_source`). In it the address stands with its most significant octet first, while every other word stands with
its least significant octet first.
-/

namespace Keepalive.Heartbeat

open Outcome

/-- A heartbeat is made from its own fields with the address in some form, and sent as a packet. -/
def Yields (h : Heartbeat) (form : Address.Form) (packet : Bytes) : Prop :=
  ({ h.draft with source := form } : Draft).send.outcome = .ok (h, packet)

/-- A form that is read as the address of a heartbeat yields its packet. -/
theorem yields_of_read {h : Heartbeat} {form : Address.Form} (hread : form.read = .ok h.source) : h.Yields form h.packet := by
  have hsame : ({ h.draft with source := form } : Draft).check = h.draft.check := check_of_source hread
  exact outcome_send_of_ok (hsame.trans h.check_draft)

/-- The address of a configuration is the one whose dotted text it was loaded from. -/
theorem host_of_loaded [Config.Depths] {entries : Entries} {config : Config} {a : Address}
    (hg : entries.get? "host_ip" = some (.text a.dotted)) (hload : (Config.load (.table entries)).outcome = .ok config) :
    config.host = a := by
  have hhost := (Config.load_eq_ok_iff.mp hload).host
  rw [Config.hostField_of_text hg] at hhost
  exact (Except.ok.inj hhost).symm

/-- The configuration of a host that sends a heartbeat. -/
def hostConfig (h : Heartbeat) : Config where
  host := h.source
  mac := h.mac.bytes
  typeId := h.typeId.toNat
  uidLength := h.uidLength.toNat

/-- The configuration of the host in writing. -/
def hostTexts (h : Heartbeat) : Config.Texts where
  host := h.source.dotted
  mac := h.mac.bytes.hex
  typeId := Numeral.decimal h.typeId.toNat
  uidLength := Numeral.decimal h.uidLength.toNat
  server := ""
  port := Numeral.decimal defaultPort

/-- The texts of the host are loaded as its configuration. -/
theorem load_hostTexts [Config.Depths] (h : Heartbeat) :
    (Config.load (.table h.hostTexts.entries)).outcome = .ok h.hostConfig := by
  have hw : h.hostConfig.WellFormed := by
    have hport : 0 < defaultPort ∧ defaultPort < 65536 := by decide
    refine ⟨h.mac.length_bytes, ?_, ?_, hport⟩
    · have ht := h.typeId.toNat_lt
      show 0 ≤ (h.typeId.toNat : Int) ∧ (h.typeId.toNat : Int) ≤ 255
      omega
    · have hu := h.uidLength.toNat_lt
      show 0 ≤ (h.uidLength.toNat : Int) ∧ (h.uidLength.toNat : Int) ≤ 255
      omega
  have hmac : Spread (Bytes.hexDigits h.mac.bytes) h.mac.bytes.hex.toList := by
    rw [Bytes.hex, String.toList_ofList]
    exact .of_small fun c hc => Bytes.toLower_of_mem_hexDigits hc
  have hs : Config.Spells h.hostConfig h.hostTexts := ⟨rfl, hmac, .decimal, .decimal, rfl, rfl⟩
  exact Config.load_eq_ok_iff.mpr (Config.accepted_of_spells hw hs fun _ => rfl)

/-- A heartbeat has the same packet whichever way its address takes: as dotted text, as a number, as four octets with the most
significant first, from any configuration that was loaded with the dotted text, and from any response in which the four octets
stand behind the first twelve. There is a configuration loaded with the dotted text that gives the heartbeat all its fields. In the
packet the address stands with its most significant octet first. -/
theorem packet_of_source [Config.Depths] (h : Heartbeat) :
    ∃ packet, h.encode = .ok packet ∧ h.Layout packet ∧ packet.slice 12 4 = Bytes.big 4 h.source.value.toNat ∧
      h.Yields (.text h.source.dotted) packet ∧
      h.Yields (.number h.source.value.toNat) packet ∧
      h.Yields (.bytes (Bytes.big 4 h.source.value.toNat)) packet ∧
      (∀ entries config, Entries.get? entries "host_ip" = some (.text h.source.dotted) →
        (Config.load (.table entries)).outcome = .ok config → h.Yields (.address config.host) packet) ∧
      (∃ entries config, Entries.get? entries "host_ip" = some (.text h.source.dotted) ∧
        (Config.load (.table entries)).outcome = .ok config ∧
        (Draft.ofConfig config h.sequence.toNat h.flag h.seed.toNat).send.outcome = .ok (h, packet)) ∧
      ∀ data : Bytes, data[0]? = some 7 → 16 ≤ data.length → data.slice 12 4 = Bytes.big 4 h.source.value.toNat →
        ∃ response, Challenge.Response.ofBytes data = .ok response ∧ h.Yields (.address response.source) packet := by
  refine ⟨h.packet, h.encode_eq, h.layout_packet, h.slice_source, yields_of_read h.source.ofText_dotted,
    yields_of_read h.source.ofNumber_toNat, yields_of_read h.source.ofBytes_bytes, ?_, ?_, ?_⟩
  · intro entries config hg hload
    refine yields_of_read ?_
    rw [host_of_loaded hg hload]
    rfl
  · exact ⟨h.hostTexts.entries, h.hostConfig, rfl, h.load_hostTexts, outcome_send_of_ok h.check_draft⟩
  · intro data hcode hlength hslice
    obtain ⟨response, hread, hsource⟩ := Challenge.Response.exists_ofBytes hcode hlength
    have hbig : Bytes.ofBig (Bytes.big 4 h.source.value.toNat) = h.source.value.toNat := h.source.ofBig_bytes
    rw [hslice, hbig] at hsource
    have hsame : response.source = h.source := congrArg Address.mk (UInt32.toNat_inj.mp hsource)
    refine ⟨response, hread, yields_of_read ?_⟩
    rw [hsame]
    rfl

end Keepalive.Heartbeat
