import Keepalive.Binary64

/-!
# The shortest decimal text of a number

Of the decimal numbers that round to a binary number, the text shows one of the fewest digits, and of those the nearest. The
candidates with so many digits are the number's own decimal expansion cut off there and the next decimal number above
that (`Binary64.candidates`).
-/

namespace Keepalive.Binary64

/-- The places after the point of an expansion. -/
def places : Nat := 1074

/-- A finite number as a multiple of the last of those places, where its expansion is exact. -/
def lastPlaces (units : Nat) : Nat := units * Numeral.weight 5 places

/-- The decimal digits of a finite number, down to the last place. -/
def expansion (units : Nat) : List Nat := (Nat.toDigits 10 (lastPlaces units)).map fun c => c.toNat - 48

/-- The two decimal numbers of so many digits next to a number, as multiples of the last place of its expansion. -/
def candidates (digits : List Nat) (count : Nat) : List Nat :=
  let step := Numeral.weight 10 (digits.length - count)
  let low := Numeral.ofDigits 10 (digits.take count)
  [low * step, (low + 1) * step]

/-- Does a multiple of the last place round to the number? -/
def readsBack (units candidate : Nat) : Bool := nearest candidate (Numeral.weight 10 places) == some units

/-- The better of two candidates for a number, the lower given first: the nearer one, and of two equally near the one whose
last digit is even. -/
def nearer (exact step low high : Nat) : Nat :=
  if exact - low < high - exact then low
  else if high - exact < exact - low then high
  else if low / step % 2 = 0 then low else high

/-- The best candidate of so many digits, when one reads back. -/
def best? (units : Nat) (digits : List Nat) (count : Nat) : Option Nat :=
  match (candidates digits count).filter (readsBack units) with
  | [] => none
  | [only] => some only
  | low :: high :: _ => some (nearer (Numeral.ofDigits 10 digits) (Numeral.weight 10 (digits.length - count)) low high)

/-- The most digits that a shortest text can need. -/
def mostDigits : Nat := 17

/-- The decimal number with the fewest digits that reads back, as a multiple of the last place of the expansion. -/
def shortest (units : Nat) : Nat :=
  let digits := expansion units
  ((List.range mostDigits).findSome? fun i => best? units digits (i + 1)).getD (lastPlaces units)

/-- The digits without the zeros at their end. -/
def significant (digits : List Char) : List Char := (digits.reverse.dropWhile (· == '0')).reverse

/-- A power of ten: its sign, and at least two digits. -/
def exponentText (exponent : Int) : List Char :=
  'e' :: (if exponent < 0 then '-' else '+') :: Numeral.padded 2 (Nat.toDigits 10 exponent.natAbs)

/-- Digits with the point after so many of them: written out from 0.0001 up to sixteen digits before the point, and with a
power of ten beyond. There is always a digit on either side of the point, but no point where a power follows one digit. -/
def layout (digits : List Char) (point : Int) : List Char :=
  if point ≤ -4 ∨ 16 < point then
    match digits with
    | [d] => d :: exponentText (point - 1)
    | d :: ds => d :: '.' :: ds ++ exponentText (point - 1)
    | [] => []
  else if point ≤ 0 then '0' :: '.' :: List.replicate (-point).toNat '0' ++ digits
  else
    let size := point.toNat
    if digits.length ≤ size then digits ++ List.replicate (size - digits.length) '0' ++ ['.', '0']
    else digits.take size ++ '.' :: digits.drop size

/-- The text of a finite number without its sign. -/
def magnitudeText (units : Nat) : List Char :=
  if units = 0 then ['0', '.', '0']
  else
    let digits := Nat.toDigits 10 (shortest units)
    layout (significant digits) ((digits.length : Int) - places)

/-- The text of a number. -/
def text : Binary64 → String
  | nan => "nan"
  | infinite negative => if negative then "-inf" else "inf"
  | finite negative units => String.ofList ((if negative then ['-'] else []) ++ magnitudeText units)

end Keepalive.Binary64
