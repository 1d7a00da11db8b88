import Keepalive.Text.Numeral

/-!
# Binary floating-point numbers

The numbers of the 64-bit binary format, held exactly: a finite one is a whole number of units of 2⁻¹⁰⁷⁴. A fraction is
rounded to the nearest of them, and of two equally near to the one whose last bit is zero (`Binary64.nearest`); decimal text
is read through that (`Binary64.ofText?`).
-/

namespace Keepalive

/-- A number of the 64-bit binary format. Zero has a sign. -/
inductive Binary64 where
  | nan
  | infinite (negative : Bool)
  /-- so many units of 2⁻¹⁰⁷⁴ -/
  | finite (negative : Bool) (units : Nat)
  deriving DecidableEq, Repr

namespace Binary64

/-- The units in one. -/
def one : Nat := 1 <<< 1074

/-- The units from which on a number is infinite. -/
def unitLimit : Nat := one <<< 1024

/-- The bits of a significand. -/
def precision : Nat := 53

/-- The nearest whole number to a fraction; a half goes to the even neighbour. -/
def nearestWhole (num den : Nat) : Nat :=
  let low := num / den
  let twice := 2 * (num % den)
  if twice < den then low
  else if den < twice then low + 1
  else low + low % 2

/-- The units of the nearest number to a fraction, or none when it is infinite. -/
def nearest (num den : Nat) : Option Nat :=
  let exact := num * one / den
  let excess := exact.log2 + 1 - precision
  let units := nearestWhole (num * one) (den <<< excess) <<< excess
  if units < unitLimit then some units else none

/-- The number nearest to decimal digits times a power of ten. Beyond the range of the format the size of the power alone
decides, so that no power is ever computed that is not needed. -/
def ofDecimal (negative : Bool) (digits : List Nat) (exponent : Int) : Binary64 :=
  let digits := digits.dropWhile (· == 0)
  let magnitude := digits.length + exponent
  if digits.isEmpty ∨ magnitude < -330 then finite negative 0
  else if 310 < magnitude then infinite negative
  else
    let value := Numeral.ofDigits 10 digits
    let units? := if 0 ≤ exponent then nearest (value * Numeral.weight 10 exponent.toNat) 1
      else nearest value (Numeral.weight 10 (-exponent).toNat)
    match units? with
    | some units => finite negative units
    | none => infinite negative

/-- The whole part of a finite number, toward zero. -/
def truncate (negative : Bool) (units : Nat) : Int :=
  let whole := units / one
  if negative then -(whole : Int) else whole

/-! ## Reading -/

/-- The digits at the beginning of a text, and the rest. -/
def splitDigits (s : List Char) : List Nat × List Char :=
  ((s.takeWhile Char.isDigit).map fun c => c.toNat - 48, s.dropWhile Char.isDigit)

/-- A sign at the beginning of a text, and the rest. -/
def splitSign : List Char → Bool × List Char
  | '+' :: r => (false, r)
  | '-' :: r => (true, r)
  | r => (false, r)

/-- The power of ten a text ends with. -/
def exponent? : List Char → Option Int
  | [] => some 0
  | c :: r =>
    if c = 'e' ∨ c = 'E' then
      let (negative, r) := splitSign r
      match splitDigits r with
      | (d :: ds, []) =>
        let size := Numeral.ofDigits 10 (d :: ds)
        some (if negative then -(size : Int) else size)
      | _ => none
    else none

/-- The digits of a text before and after its point, and the rest. -/
def splitPoint (s : List Char) : List Nat × List Nat × List Char :=
  match splitDigits s with
  | (whole, '.' :: r) => (whole, splitDigits r)
  | (whole, r) => (whole, [], r)

/-- The number a text without a sign spells: `inf`, `nan`, or decimal digits with an optional point and power of ten. -/
def magnitude? (negative : Bool) (s : List Char) : Option Binary64 :=
  if s = "inf".toList then some (infinite negative)
  else if s = "nan".toList then some nan
  else
    let (whole, fraction, r) := splitPoint s
    if whole.isEmpty ∧ fraction.isEmpty then none
    else (exponent? r).map fun exponent => ofDecimal negative (whole ++ fraction) (exponent - fraction.length)

/-- The number a text spells, with an optional sign. -/
def ofText? (s : List Char) : Option Binary64 :=
  let (negative, r) := splitSign s
  magnitude? negative r

end Binary64

end Keepalive
