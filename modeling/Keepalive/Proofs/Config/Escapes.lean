import Keepalive.Fault
import Keepalive.Proofs.Config.Settings
import Keepalive.Proofs.Text.Numeral
import Keepalive.Proofs.Value

/-!
# Faults that no report covers

A setting that is wrong is reported, as a rule. Three kinds of values get past the report: a value that has no text, a number that
is too long to be named in the report, and an infinite port (`Strays`). Loading a table of settings ends in such a fault exactly
when one of its fields strays and all the fields before it are made (`load_reported_iff`).
-/

namespace Keepalive

open Outcome

namespace Config

/-! ## Fields -/

/-- The fields of a configuration. -/
inductive Field where
  | host
  | mac
  | typeId
  | uidLength
  | server
  | port
  deriving DecidableEq, Repr

namespace Field

variable [Depths]

/-- The setting that a field is made of. -/
def name : Field → String
  | host => "host_ip"
  | mac => "mac"
  | typeId => "type_id"
  | uidLength => "uid_length"
  | server => "server_ip"
  | port => "drcom_port"

/-- The fields in the order in which they are made. -/
def all : List Field := [host, mac, typeId, uidLength, server, port]

/-- How deep the value of a field may nest. -/
def depth : Field → Nat
  | host => Depths.host
  | mac => Depths.mac
  | typeId => Depths.typeId
  | uidLength => Depths.uidLength
  | server => Depths.server
  | port => Depths.port

/-- The fault in which the making of a field ends, if it fails. -/
def fault? (entries : Entries) : Field → Option LoadFault
  | host => Outcome.fault? (hostField entries host.name)
  | mac => Outcome.fault? (macField entries mac.name)
  | typeId => Outcome.fault? (byteField typeId.depth entries typeId.name Heartbeat.defaultTypeId)
  | uidLength => Outcome.fault? (byteField uidLength.depth entries uidLength.name Heartbeat.defaultUidLength)
  | server => Outcome.fault? (serverField entries server.name)
  | port => Outcome.fault? (portField entries port.name defaultPort)

/-- The number that a value stands for in a field of numbers, if any. -/
def number? : Field → Value → Option Int
  | typeId, value => (textOf typeId.depth value).toOption.bind fun text => Numeral.eitherBase? text.toList
  | uidLength, value => (textOf uidLength.depth value).toOption.bind fun text => Numeral.eitherBase? text.toList
  | port, value => numberOf? value
  | _, _ => none

end Field

/-- The fault of a table of settings is that of the first field that fails. -/
theorem fault?_ofEntries [Depths] (entries : Entries) : fault? (ofEntries entries) = Field.all.findSome? (Field.fault? entries) := by
  simp only [Field.all, findSome?_cons_eq_or]
  refine fault?_bind fun host => ?_
  refine fault?_bind fun mac => ?_
  refine fault?_bind fun typeId => ?_
  refine fault?_bind fun uidLength => ?_
  refine fault?_bind fun server => ?_
  exact fault?_bind fun port => rfl

/-! ## Faults of single fields -/

/-- A fault that is not reported. -/
def Unreported (fault : LoadFault) : Prop := (Fault.load fault).isReported = false

theorem not_unreported_rejected (fault : ConfigFault) : ¬Unreported (.rejected fault) := fun h => nomatch h

/-- A value that has no text leaves a fault that is not reported. -/
theorem unreported_ofTextFault (fault : TextFault) : Unreported (ofTextFault fault) := by
  cases fault with
  | longNumber => rfl
  | tooDeep => rfl

/-- A number that cannot be written is refused as that. -/
theorem rejectNumber_of_not_fits {number : Int} (h : Numeral.fits number = false) (fault : ConfigFault) :
    rejectNumber fault number = .longNumber := Numeral.naming_of_not_fits h _ _

/-- The refusal of a number is not reported exactly when the number is too long to be named in it. -/
theorem unreported_rejectNumber {fault : ConfigFault} {number : Int} :
    Unreported (rejectNumber fault number) ↔ Numeral.fits number = false := by
  cases hfits : Numeral.fits number with
  | false =>
    rw [rejectNumber_of_not_fits hfits]
    exact ⟨fun _ => rfl, fun _ => rfl⟩
  | true =>
    rw [rejectNumber, Numeral.naming_of_fits hfits]
    exact ⟨fun h => absurd h (not_unreported_rejected fault), fun h => nomatch h⟩

/-- A value that escapes the report of a field, with the fault that comes of it. -/
inductive Strays [Depths] (field : Field) : Value → LoadFault → Prop where
  /-- a value that has no text -/
  | unwritten {value : Value} {fault : TextFault} : value.plain field.depth = .error fault →
      Strays field value (ofTextFault fault)
  /-- a number that is too long to be named in its refusal -/
  | far {value : Value} {number : Int} : field.number? value = some number → Numeral.fits number = false →
      Strays field value .longNumber
  /-- an infinite port -/
  | infinite {negative : Bool} : field = .port → Strays field (.real (.infinite negative)) .infinitePort

/-- What strays is not reported. -/
theorem Strays.unreported [Depths] {field : Field} {value : Value} {fault : LoadFault} (h : Strays field value fault) :
    Unreported fault := by
  cases h with
  | unwritten _ => exact unreported_ofTextFault _
  | far _ _ => rfl
  | infinite _ => rfl

section

variable {depth : Nat} {entries : Entries} {name : String} {value : Value}

/-- A value without a text is the fault of whatever is to be done with its text. -/
theorem fault?_textOf {α : Type} {written : TextFault} (hv : value.plain depth = .error written)
    (use : String → Except LoadFault α) : fault? (textOf depth value >>= use) = some (ofTextFault written) := by
  rw [textOf, hv]
  rfl

/-- A value without a text is an integer that is too long, or something that is no number at all. -/
theorem number_of_unwritten {written : TextFault} (h : value.plain depth = .error written) :
    (∃ number, value = .integer number ∧ Numeral.fits number = false ∧ written = .longNumber) ∨
      numberOf? value = none ∧ ∀ x, value ≠ .real x := by
  cases value with
  | text t => nomatch h
  | integer n =>
    have hnumber : Value.numberText n = .error written := h
    obtain ⟨hfits, hwritten⟩ := Value.numberText_eq_error hnumber
    exact .inl ⟨n, rfl, hfits, hwritten⟩
  | boolean b =>
    have hb : (.ok (Value.truthText b) : Except TextFault String) = .error written := h
    nomatch hb
  | real x =>
    have hx : (.ok x.text : Except TextFault String) = .error written := h
    nomatch hx
  | null => exact .inr ⟨rfl, fun _ => Value.noConfusion⟩
  | list items => exact .inr ⟨rfl, fun _ => Value.noConfusion⟩
  | table entries => exact .inr ⟨rfl, fun _ => Value.noConfusion⟩
  | date d => nomatch h
  | time t => nomatch h
  | moment m => nomatch h

/-- A number that is too long is out of any range that a field allows. -/
theorem out_of_range {number bound : Int} (hb : bound < 65536) (h : Numeral.fits number = false) :
    ¬(0 ≤ number ∧ number ≤ bound) := by
  rintro ⟨h0, hn⟩
  rw [Numeral.fits_of_lt h0 (by omega)] at h
  nomatch h

/-- A number of an octet that is too long ends the field without a report. -/
theorem fault?_byteField_of_far {standard number : Int} (hg : entries.get? name = some value)
    (hn : ((textOf depth value).toOption.bind fun text => Numeral.eitherBase? text.toList) = some number)
    (hfits : Numeral.fits number = false) : fault? (byteField depth entries name standard) = some .longNumber := by
  rw [byteField, hg]
  cases ht : textOf depth value with
  | error fault =>
    rw [ht] at hn
    cases hn
  | ok text =>
    rw [ht] at hn
    have hnumber : Numeral.eitherBase? text.toList = some number := hn
    have hrange : ¬(0 ≤ number ∧ number ≤ 255) := out_of_range (by decide) hfits
    simp only [ht, ok_bind, hnumber, if_neg hrange, rejectNumber_of_not_fits hfits]
    rfl

end

section

variable [Depths] {entries : Entries} {name : String} {field : Field} {value : Value} {fault : LoadFault}

/-- A fault that is not reported comes from a value without a text, or from what is done with the text. -/
theorem strays_of_textOf {α : Type} {use : String → Except LoadFault α}
    (h : fault? (textOf field.depth value >>= use) = some fault)
    (huse : ∀ text, textOf field.depth value = .ok text → fault? (use text) = some fault → Strays field value fault) :
    Strays field value fault := by
  cases hv : value.plain field.depth with
  | error written =>
    rw [fault?_textOf hv] at h
    rw [← Option.some.inj h]
    exact .unwritten hv
  | ok text =>
    have ht : textOf field.depth value = .ok text := mapError_eq_ok.mpr hv
    rw [ht, ok_bind] at h
    exact huse text ht h

/-- An absent setting leaves no fault, or a reported one. -/
theorem reported_of_absent (hg : entries.get? field.name = none) (h : field.fault? entries = some fault) :
    ¬Unreported fault := by
  cases field with
  | host =>
    rw [Field.fault?, hostField, hg] at h
    rw [← Option.some.inj h]
    exact not_unreported_rejected _
  | mac =>
    rw [Field.fault?, macField, hg] at h
    cases h
  | typeId =>
    rw [Field.fault?, byteField, hg] at h
    cases h
  | uidLength =>
    rw [Field.fault?, byteField, hg] at h
    cases h
  | server =>
    rw [Field.fault?, serverField, hg] at h
    cases h
  | port =>
    rw [Field.fault?, portField, hg] at h
    cases h

/-- A number that is refused without a report is too long to be named in it. -/
theorem strays_of_number {number : Int} {cause : ConfigFault} {range : Prop} [Decidable range]
    (hn : field.number? value = some number)
    (h : fault? (if range then pure number else throw (rejectNumber cause number) : Except LoadFault Int) = some fault)
    (hu : Unreported fault) : Strays field value fault := by
  split at h
  · cases h
  · rw [← Option.some.inj h] at hu ⊢
    have hfits := unreported_rejectNumber.mp hu
    rw [rejectNumber_of_not_fits hfits]
    exact .far hn hfits

/-- The number of an octet strays when it is too long, and is reported or accepted else. -/
theorem strays_of_byteField {standard : Int} (hg : entries.get? name = some value)
    (hnumber : ∀ text, textOf field.depth value = .ok text → field.number? value = Numeral.eitherBase? text.toList)
    (h : fault? (byteField field.depth entries name standard) = some fault) (hu : Unreported fault) : Strays field value fault := by
  rw [byteField, hg] at h
  refine strays_of_textOf h fun text ht h => ?_
  cases hn : Numeral.eitherBase? text.toList with
  | none =>
    simp only [hn] at h
    rw [← Option.some.inj h] at hu
    exact absurd hu (not_unreported_rejected _)
  | some number =>
    simp only [hn] at h
    exact strays_of_number ((hnumber text ht).trans hn) h hu

/-- A port strays when it is infinite, when it is no number and has no text, and when its number is too long. -/
theorem strays_of_portField {standard : Int} (hg : entries.get? name = some value)
    (h : fault? (portField entries name standard) = some fault) (hu : Unreported fault) : Strays .port value fault := by
  rw [portField, hg] at h
  split at h
  · rename_i heq
    cases heq
  · rename_i negative heq
    rw [Option.some.inj heq, ← Option.some.inj h]
    exact .infinite rfl
  · rename_i _ _ heq
    cases Option.some.inj heq
    cases hn : numberOf? value with
    | none =>
      simp only [hn] at h
      refine strays_of_textOf h fun text _ h => ?_
      rw [← Option.some.inj h] at hu
      exact absurd hu (not_unreported_rejected _)
    | some number =>
      simp only [hn] at h
      exact strays_of_number hn h hu

/-- A fault of a field that is not reported comes from a value that strays. -/
theorem strays_of_fault? (hg : entries.get? field.name = some value) (h : field.fault? entries = some fault)
    (hu : Unreported fault) : Strays field value fault := by
  have hnumber : ∀ depth text, textOf depth value = .ok text →
      (textOf depth value).toOption.bind (fun text => Numeral.eitherBase? text.toList) = Numeral.eitherBase? text.toList := by
    intro depth text ht
    rw [ht]
    rfl
  cases field with
  | host =>
    rw [Field.fault?, hostField, hg] at h
    refine strays_of_textOf h fun text _ h => ?_
    cases ha : Address.ofText text with
    | ok address =>
      rw [ha] at h
      cases h
    | error cause =>
      rw [ha] at h
      rw [← Option.some.inj h] at hu
      exact absurd hu (not_unreported_rejected _)
  | mac =>
    rw [Field.fault?, macField, hg] at h
    refine strays_of_textOf h fun text _ h => ?_
    cases hm : macOf? text with
    | some octets =>
      rw [hm] at h
      cases h
    | none =>
      rw [hm] at h
      rw [← Option.some.inj h] at hu
      exact absurd hu (not_unreported_rejected _)
  | typeId => exact strays_of_byteField hg (hnumber _) h hu
  | uidLength => exact strays_of_byteField hg (hnumber _) h hu
  | server =>
    rw [Field.fault?, serverField, hg] at h
    have hbind : fault? (textOf Field.server.depth value >>= pure) = some fault := by
      rw [← h]
      show fault? (textOf Depths.server value >>= pure) = fault? (textOf Depths.server value)
      cases textOf Depths.server value <;> rfl
    exact strays_of_textOf hbind fun text _ h => by cases h
  | port => exact strays_of_portField hg h hu

/-- A port that is too long ends the field without a report. -/
theorem fault?_portField_of_far {standard number : Int} (hg : entries.get? name = some value)
    (hn : numberOf? value = some number) (hfits : Numeral.fits number = false) :
    fault? (portField entries name standard) = some .longNumber := by
  have hrange : ¬(0 < number ∧ number < 65536) := fun h =>
    out_of_range (by decide : (65535 : Int) < 65536) hfits ⟨by omega, by omega⟩
  rw [portField, hg]
  split
  · rename_i heq
    cases heq
  · rename_i negative heq
    rw [Option.some.inj heq] at hn
    cases hn
  · rename_i heq
    cases Option.some.inj heq
    simp only [hn, if_neg hrange, rejectNumber_of_not_fits hfits]
    rfl

/-- A port that has no text ends the field without a report. -/
theorem fault?_portField_of_unwritten {standard : Int} {written : TextFault} (hg : entries.get? name = some value)
    (hv : value.plain Depths.port = .error written) : fault? (portField entries name standard) = some (ofTextFault written) := by
  rcases number_of_unwritten hv with ⟨number, rfl, hfits, rfl⟩ | ⟨hn, hreal⟩
  · exact fault?_portField_of_far hg rfl hfits
  · rw [portField, hg]
    split
    · rename_i heq
      cases heq
    · rename_i negative heq
      exact absurd (Option.some.inj heq) (hreal _)
    · rename_i heq
      cases Option.some.inj heq
      simp only [hn]
      exact fault?_textOf hv _

/-- A value that strays ends its field. -/
theorem fault?_of_strays (hg : entries.get? field.name = some value) (h : Strays field value fault) :
    field.fault? entries = some fault := by
  cases h with
  | unwritten hv =>
    cases field with
    | host =>
      rw [Field.fault?, hostField, hg]
      exact fault?_textOf hv _
    | mac =>
      rw [Field.fault?, macField, hg]
      exact fault?_textOf hv _
    | typeId =>
      rw [Field.fault?, byteField, hg]
      exact fault?_textOf hv _
    | uidLength =>
      rw [Field.fault?, byteField, hg]
      exact fault?_textOf hv _
    | server =>
      rw [Field.fault?, serverField, hg]
      show fault? (textOf Field.server.depth value) = _
      rw [textOf, hv]
      rfl
    | port => exact fault?_portField_of_unwritten hg hv
  | far hn hfits =>
    cases field with
    | host => cases hn
    | mac => cases hn
    | typeId => exact fault?_byteField_of_far hg hn hfits
    | uidLength => exact fault?_byteField_of_far hg hn hfits
    | server => cases hn
    | port => exact fault?_portField_of_far hg hn hfits
  | infinite hp =>
    subst hp
    rw [Field.fault?, portField, hg]
    rfl

end

/-! ## Faults of tables -/

/-- A field at which the loading of settings ends without a report: the fields before it are made, and its own value strays. -/
structure Escapes [Depths] (entries : Entries) (field : Field) (fault : LoadFault) : Prop where
  first : ∃ made rest, Field.all = made ++ field :: rest ∧ ∀ earlier ∈ made, earlier.fault? entries = none
  strays : ∃ value, entries.get? field.name = some value ∧ Strays field value fault

/-- Only the faults that are no rejections are not reported. -/
theorem unreported_iff {fault : LoadFault} : Unreported fault ↔ ∀ cause, fault ≠ .rejected cause := by
  constructor
  · rintro hu cause rfl
    exact not_unreported_rejected cause hu
  · intro h
    cases fault with
    | rejected cause => exact absurd rfl (h cause)
    | _ => rfl

/-- A table of settings ends in a fault that is not reported exactly when a field escapes with it. -/
theorem unreported_ofEntries_iff [Depths] {entries : Entries} {fault : LoadFault} :
    (ofEntries entries = .error fault ∧ Unreported fault) ↔ ∃ field, Escapes entries field fault := by
  rw [← fault?_eq_some, fault?_ofEntries, List.findSome?_eq_some_iff]
  constructor
  · rintro ⟨⟨made, field, rest, hall, hfault, hmade⟩, hu⟩
    refine ⟨field, ⟨made, rest, hall, hmade⟩, ?_⟩
    cases hg : entries.get? field.name with
    | none => exact absurd hu (reported_of_absent hg hfault)
    | some value => exact ⟨value, rfl, strays_of_fault? hg hfault hu⟩
  · rintro ⟨field, ⟨made, rest, hall, hmade⟩, value, hg, hs⟩
    exact ⟨⟨made, field, rest, hall, fault?_of_strays hg hs, hmade⟩, hs.unreported⟩

/-- Loading a table of settings, whatever it holds, gives a configuration or is rejected exactly when no field escapes; and when
one does, loading ends in its fault. -/
theorem load_reported_iff [Depths] (entries : Entries) :
    (((∃ config, (load (.table entries)).outcome = .ok config) ∨
        ∃ cause, (load (.table entries)).outcome = .error (.rejected cause)) ↔ ∀ field fault, ¬Escapes entries field fault) ∧
      ∀ field fault, Escapes entries field fault → (load (.table entries)).outcome = .error fault := by
  have hends : ∀ field fault, Escapes entries field fault → ofEntries entries = .error fault := fun field fault he =>
    (unreported_ofEntries_iff.mpr ⟨field, he⟩).1
  rw [outcome_load]
  refine ⟨⟨?_, ?_⟩, hends⟩
  · intro hreported field fault he
    have hfault : ofValue (.table entries) = .error fault := hends field fault he
    have hu := unreported_iff.mp (unreported_ofEntries_iff.mpr ⟨field, he⟩).2
    rcases hreported with ⟨config, h⟩ | ⟨cause, h⟩
    · rw [hfault] at h
      nomatch h
    · rw [hfault] at h
      exact hu cause (Except.error.inj h)
  · intro hnone
    show (∃ config, ofEntries entries = .ok config) ∨ ∃ cause, ofEntries entries = .error (.rejected cause)
    cases hof : ofEntries entries with
    | ok config => exact .inl ⟨config, rfl⟩
    | error fault =>
      by_cases hu : Unreported fault
      · obtain ⟨field, he⟩ := unreported_ofEntries_iff.mp ⟨hof, hu⟩
        exact absurd he (hnone field fault)
      · cases fault with
        | rejected cause => exact .inr ⟨cause, rfl⟩
        | _ => exact absurd rfl hu

open scoped Depths

/-- Settings with an infinite port. -/
def infiniteSettings : Entries := [("host_ip", .text "10.0.0.1"), ("drcom_port", .real (.infinite false))]

/-- The settings with an infinite port are neither accepted nor rejected. -/
theorem not_reported_of_infinite : ¬((∃ config, (load (.table infiniteSettings)).outcome = .ok config) ∨
    ∃ cause, (load (.table infiniteSettings)).outcome = .error (.rejected cause)) ∧
    (load (.table infiniteSettings)).outcome = .error .infinitePort := by
  have hload : (load (.table infiniteSettings)).outcome = .error .infinitePort := rfl
  refine ⟨?_, hload⟩
  rw [hload]
  rintro (⟨config, h⟩ | ⟨cause, h⟩)
  · nomatch h
  · nomatch h

end Config

end Keepalive
