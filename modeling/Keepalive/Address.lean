import Keepalive.Bytes
import Keepalive.Text.Numeral
import Keepalive.Text.Quoted

/-!
# Addresses

An address is a word of thirty-two bits, shown as four decimal octets with points between them (`Address.dotted`) and sent
as four octets, the most significant first (`Address.bytes`). It may be given as a text, as a number or as octets
(`Address.Form`); `Address.Form.read` accepts each form only in its one spelling and names the first thing wrong with any other.
-/

namespace Keepalive

/-- An address of four octets, as the word they spell. -/
structure Address where
  value : UInt32
  deriving DecidableEq, Repr

/-- What can be wrong with one octet of a dotted text. -/
inductive OctetFault where
  | empty
  /-- a character other than an ASCII digit -/
  | notDigits (octet : String)
  /-- more than three digits -/
  | tooLong (octet : String)
  /-- a zero before another digit -/
  | leadingZero (octet : String)
  | tooLarge (value : Nat)
  deriving DecidableEq, Repr

/-- The wording of an octet's fault. -/
def OctetFault.message : OctetFault → String
  | empty => "Empty octet not permitted"
  | notDigits octet => "Only decimal digits permitted in " ++ Text.Quoted.text octet
  | tooLong octet => "At most 3 characters permitted in " ++ Text.Quoted.text octet
  | leadingZero octet => "Leading zeros are not permitted in " ++ Text.Quoted.text octet
  | tooLarge value => "Octet " ++ Numeral.decimal value ++ " (> 255) not permitted"

/-- Why something given as an address is none. -/
inductive AddressFault where
  /-- a text with a slash -/
  | slash (text : String)
  | empty
  /-- a text that has not four parts -/
  | notFour (text : String)
  | octet (fault : OctetFault) (text : String)
  | negative (number : Int)
  | tooLarge (number : Int)
  /-- a byte string that has not four octets -/
  | wrongLength (octets : Bytes)
  /-- a number that is no address and cannot be written -/
  | longNumber
  deriving DecidableEq, Repr

/-- The wording of an address fault. -/
def AddressFault.message : AddressFault → String
  | slash text => "Unexpected '/' in " ++ Text.Quoted.text text
  | empty => "Address cannot be empty"
  | notFour text => "Expected 4 octets in " ++ Text.Quoted.text text
  | octet fault text => fault.message ++ " in " ++ Text.Quoted.text text
  | negative number => Numeral.decimal number ++ " (< 0) is not permitted as an IPv4 address"
  | tooLarge number => Numeral.decimal number ++ " (>= 2**32) is not permitted as an IPv4 address"
  | wrongLength octets =>
    Text.Quoted.bytes octets ++ " (len " ++ Numeral.decimal octets.length ++ " != 4) is not permitted as an IPv4 address"
  | longNumber => Numeral.limitWording

namespace Address

/-- The four octets, in the order in which they are written and sent. -/
def bytes (a : Address) : Bytes := Bytes.big 4 a.value.toNat

/-- The characters of the dotted text. -/
def dottedChars (a : Address) : List Char :=
  ['.'].intercalate (a.bytes.map fun b => Nat.toDigits 10 b.toNat)

/-- The four octets in decimal with points between them. -/
def dotted (a : Address) : String := String.ofList a.dottedChars

/-- The octet a part of a dotted text spells. -/
def octet (part : List Char) : Except OctetFault Nat :=
  if part.isEmpty then .error .empty
  else if !part.all Char.isDigit then .error (.notDigits (String.ofList part))
  else if 3 < part.length then .error (.tooLong (String.ofList part))
  else if part ≠ ['0'] ∧ part.head? = some '0' then .error (.leadingZero (String.ofList part))
  else
    let value := Nat.ofDigitChars 10 part 0
    if 255 < value then .error (.tooLarge value) else .ok value

/-- The octets that the parts of a dotted text spell; the first bad part is the one reported. -/
def octets (parts : List (List Char)) : Except OctetFault (List Nat) := parts.mapM octet

/-- The address whose octets these are, the most significant first. -/
def ofOctets (values : List Nat) : Address := ⟨UInt32.ofNat (values.foldl (fun acc v => acc * 256 + v) 0)⟩

/-- The address a dotted text spells. -/
def ofText (text : String) : Except AddressFault Address :=
  let chars := text.toList
  if '/' ∈ chars then .error (.slash text)
  else if chars.isEmpty then .error .empty
  else
    let parts := chars.splitOn '.'
    if parts.length ≠ 4 then .error (.notFour text)
    else match octets parts with
      | .ok values => .ok (ofOctets values)
      | .error fault => .error (.octet fault text)

/-- The address of a number. -/
def ofNumber (number : Int) : Except AddressFault Address :=
  if number < 0 then .error (Numeral.naming number (.negative number) .longNumber)
  else if UInt32.size ≤ number then .error (Numeral.naming number (.tooLarge number) .longNumber)
  else .ok ⟨UInt32.ofNat number.toNat⟩

/-- The address of four octets, the most significant first. -/
def ofBytes (octets : Bytes) : Except AddressFault Address :=
  if octets.length = 4 then .ok ⟨UInt32.ofNat (Bytes.ofBig octets)⟩ else .error (.wrongLength octets)

/-- The forms in which an address may be given. -/
inductive Form where
  | text (text : String)
  | number (number : Int)
  | bytes (octets : Bytes)
  | address (address : Address)
  deriving DecidableEq, Repr

/-- The address that a form gives. -/
def Form.read : Form → Except AddressFault Address
  | text t => ofText t
  | number n => ofNumber n
  | bytes b => ofBytes b
  | address a => .ok a

@[simp] theorem length_bytes (a : Address) : a.bytes.length = 4 := by
  simp [bytes]

/-- The octets of an address spell its word. -/
theorem ofBig_bytes (a : Address) : Bytes.ofBig a.bytes = a.value.toNat := by
  rw [bytes, Bytes.ofBig_big]
  exact Nat.mod_eq_of_lt a.value.toNat_lt

/-- The octets of an address give the address back. -/
theorem ofBytes_bytes (a : Address) : ofBytes a.bytes = .ok a := by
  simp [ofBytes, ofBig_bytes]

/-- The number of an address gives the address back. -/
theorem ofNumber_toNat (a : Address) : ofNumber a.value.toNat = .ok a := by
  have h := a.value.toNat_lt
  have h1 : ¬ ((a.value.toNat : Int) < 0) := by omega
  have h2 : ¬ ((UInt32.size : Int) ≤ (a.value.toNat : Int)) := by
    simp only [UInt32.size]
    omega
  rw [ofNumber, if_neg h1, if_neg h2, Int.toNat_natCast, UInt32.ofNat_toNat]

end Address

end Keepalive
