import Keepalive.Fault
import Keepalive.Value

/-!
# Notices

A notice is what is told of a reported fault: the family it falls into, its wording, and by name the values that it is about.
Every reported fault has one (`Fault.notice?`). A notice can also be made outright from values (`Notice.ofValues`), which each
family takes in its own number and order: a truncated field its name and the two numbers of octets, a wrong code the two codes,
a number of no mode or a bad length just that. The families that stand for no one cause take any values and word them as they
are.
-/

namespace Keepalive

/-- What is told of a reported fault. -/
structure Notice where
  family : Family
  message : String
  values : List (String × Value)

/-- The values a fault is about, by name. -/
def Fault.values (fault : Fault) : List (String × Value) :=
  match fault with
  | .read (.truncated name expected received) =>
    [("field", .text name), ("expected", .integer expected), ("received", .integer received)]
  | .read (.wrongCode expected actual) =>
    [("field", .text "code"), ("expected_code", .integer expected), ("actual_code", .integer actual)]
  | .checksum (.noSuchMode number) => [("mode", .integer number)]
  | .checksum (.unaligned length) => [("length", .integer length)]
  | _ => []

/-- The notice of a reported fault. -/
def Fault.notice? (fault : Fault) : Option Notice := do
  pure ⟨← fault.family?, ← fault.message?, fault.values⟩

/-- Why values make no notice of a family. -/
inductive NoticeFault where
  /-- the family takes another number of values -/
  | wrongCount
  /-- a text where a code should be -/
  | textCode
  /-- a number of the binary format where a code should be -/
  | realCode
  /-- something else where a code should be -/
  | noCode
  /-- a value that has no text -/
  | unwritable (fault : TextFault)
  deriving DecidableEq, Repr

/-- The wording of a fault, where it has one of its own. -/
def NoticeFault.message? : NoticeFault → Option String
  | textCode => some "Unknown format code 'x' for object of type 'str'"
  | realCode => some "Unknown format code 'x' for object of type 'float'"
  | unwritable .longNumber => some Numeral.limitWording
  | unwritable .tooDeep => none
  | wrongCount => none
  | noCode => none

namespace Notice

/-- The text of a value that stands alone and nests no deeper than this. -/
def textOf (depth : Nat) (value : Value) : Except NoticeFault String := (value.plain depth).mapError .unwritable

/-- The text of a value as a code; a truth value is the code zero or one. -/
def codeOf : Value → Except NoticeFault String
  | .integer code => .ok (ReadFault.codeText code)
  | .boolean truth => .ok (ReadFault.codeText (if truth then 1 else 0))
  | .text _ => .error .textCode
  | .real _ => .error .realCode
  | _ => .error .noCode

/-- The text of any values together: none is nothing, one stands alone, and more stand in parentheses. -/
def textOfAll (depth : Nat) : List Value → Except NoticeFault String
  | [] => .ok ""
  | [value] => textOf depth value
  | values => ((Value.nestedItems (depth - 1) values).map (Value.bracketed "(" ")")).mapError .unwritable

/-- The notice of a family about values that nest no deeper than this. -/
def ofValues (depth : Nat) (family : Family) (values : List Value) : Except NoticeFault Notice :=
  match family, values with
  | .read, [field, message] => do pure ⟨.read, ← textOf depth message, [("field", field)]⟩
  | .truncated, [field, expected, received] => do
    pure ⟨.truncated, ReadFault.truncatedWording (← textOf depth field) (← textOf depth expected) (← textOf depth received),
      [("field", field), ("expected", expected), ("received", received)]⟩
  | .wrongCode, [expected, actual] => do
    pure ⟨.wrongCode, ReadFault.wrongCodeWording (← codeOf expected) (← codeOf actual),
      [("field", .text "code"), ("expected_code", expected), ("actual_code", actual)]⟩
  | .noSuchMode, [number] => do pure ⟨.noSuchMode, ChecksumFault.noSuchModeWording (← textOf depth number), [("mode", number)]⟩
  | .unaligned, [length] => do pure ⟨.unaligned, ChecksumFault.unalignedWording (← textOf depth length), [("length", length)]⟩
  | .any, values => do pure ⟨.any, ← textOfAll depth values, []⟩
  | .config, values => do pure ⟨.config, ← textOfAll depth values, []⟩
  | .protocol, values => do pure ⟨.protocol, ← textOfAll depth values, []⟩
  | .checksum, values => do pure ⟨.checksum, ← textOfAll depth values, []⟩
  | _, _ => .error .wrongCount

/-- A notice is of the family it was made for. -/
theorem family_ofValues {depth : Nat} {family : Family} {values : List Value} {notice : Notice}
    (h : ofValues depth family values = .ok notice) :
    notice.family = family := by
  unfold ofValues at h
  split at h <;> simp [bind, Except.bind, pure, Except.pure] at h <;> grind

/-- A notice of two codes is that of the fault with these codes. -/
theorem ofValues_wrongCode (depth : Nat) (expected actual : Int) :
    (ofValues depth .wrongCode [.integer expected, .integer actual]).toOption = (Fault.read (.wrongCode expected actual)).notice? :=
  rfl

end Notice

end Keepalive
