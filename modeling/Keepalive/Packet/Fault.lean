import Keepalive.Address

/-!
# What can go wrong with a packet

`ReadFault` says why a packet could not be read from a stream, `FieldFault` why its fields cannot be sent, and both have the
wording of their causes.
-/

namespace Keepalive

/-- Why a packet could not be read. -/
inductive ReadFault where
  /-- the stream ended inside a field, or gave more than was asked for -/
  | truncated (field : String) (expected received : Int)
  /-- the first octet is not the packet's code -/
  | wrongCode (expected actual : Int)
  /-- a size that no stream in memory can be asked for -/
  | oversized
  /-- another number of octets than was asked for, and one of the two numbers cannot be written -/
  | longNumber
  deriving DecidableEq, Repr

/-- The fault of a field for which another number of octets came than was asked for. It names the two numbers, if they can be
written. -/
def ReadFault.short (field : String) (expected received : Int) : ReadFault :=
  Numeral.naming expected (Numeral.naming received (truncated field expected received) longNumber) longNumber

/-- Numbers of octets that can be written are told. -/
theorem ReadFault.short_of_fits {expected received : Int} (he : Numeral.fits expected = true) (hr : Numeral.fits received = true)
    (field : String) : short field expected received = truncated field expected received := by
  rw [short, Numeral.naming_of_fits he, Numeral.naming_of_fits hr]

/-- When one of the numbers cannot be written, neither is told. -/
theorem ReadFault.short_of_not_fits {expected received : Int}
    (h : Numeral.fits expected = false ∨ Numeral.fits received = false) (field : String) :
    short field expected received = longNumber := by
  unfold short
  rcases h with h | h
  · rw [Numeral.naming_of_not_fits h]
  · rw [Numeral.naming_of_not_fits h]
    exact ite_self _

/-- A field that is cut short was called for. -/
theorem ReadFault.short_ne_oversized {field : String} {expected received : Int} : short field expected received ≠ oversized := by
  unfold short Numeral.naming
  split
  · split
    · nofun
    · nofun
  · nofun

/-- The wording of a field cut short, from its name and the texts of the two numbers of octets. -/
def ReadFault.truncatedWording (field expected received : String) : String :=
  "读取字段 '" ++ field ++ "' 失败: 需要 " ++ expected ++ " 字节，实际只有 " ++ received ++ " 字节"

/-- The text of a code: in hexadecimal, at least four characters wide. -/
def ReadFault.codeText (code : Int) : String := Numeral.prefixedHex 4 code

/-- The wording of a wrong code, from the texts of the two codes. -/
def ReadFault.wrongCodeWording (expected actual : String) : String :=
  "数据包 Code 不匹配: 期望 " ++ expected ++ "，收到 " ++ actual

/-- The wording of a fault, where it has one of its own. -/
def ReadFault.message? : ReadFault → Option String
  | truncated field expected received =>
    some (truncatedWording field (Numeral.decimal expected) (Numeral.decimal received))
  | wrongCode expected actual => some (wrongCodeWording (codeText expected) (codeText actual))
  | oversized => none
  | longNumber => some Numeral.limitWording

/-- Why fields given as numbers and octets make no packet. -/
inductive FieldFault where
  /-- a field of one octet is not in 0 to 255 -/
  | notByte (name : String) (value : Int)
  /-- the seed is not a word of thirty-two bits -/
  | seedRange (value : Int)
  /-- the hardware address has not six octets -/
  | macLength (octets : Bytes)
  | address (fault : AddressFault)
  /-- a number that is out of its field's range and cannot be written -/
  | longNumber
  deriving DecidableEq, Repr

/-- The wording of a fault. -/
def FieldFault.message : FieldFault → String
  | notByte name value => name ++ " 必须在 0-255 之间: " ++ Numeral.decimal value
  | seedRange value => "challenge_seed 超出 32 位范围: " ++ Numeral.decimal value
  | macLength octets => "MAC 地址必须为 6 字节: " ++ Text.Quoted.bytes octets
  | address fault => fault.message
  | longNumber => Numeral.limitWording

/-- Is a fault of the narrower kind that only bad addresses are? A number that cannot be written makes a fault of the common kind,
given as an address too. -/
def FieldFault.isAddress : FieldFault → Bool
  | address .longNumber => false
  | address _ => true
  | _ => false

/-- A field of one octet. -/
def octetField (name : String) (value : Int) : Except FieldFault UInt8 :=
  if 0 ≤ value ∧ value ≤ 255 then .ok (UInt8.ofNat value.toNat)
  else .error (Numeral.naming value (.notByte name value) .longNumber)

/-- A field of one octet exists for the numbers an octet holds. -/
theorem octetField_toNat (name : String) (b : UInt8) : octetField name b.toNat = .ok b := by
  have h := b.toNat_lt
  have h1 : 0 ≤ (b.toNat : Int) ∧ (b.toNat : Int) ≤ 255 := by omega
  rw [octetField, if_pos h1, Int.toNat_natCast, UInt8.ofNat_toNat]

end Keepalive
