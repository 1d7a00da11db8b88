import Keepalive.Toml.Scan
import Keepalive.Value

/-!
# Numbers of a document

Integers in decimal with an optional sign, or behind a mark in hexadecimal, octal or binary; and decimal numbers with a point, a
power of ten or both. Single underscores may stand between digits. A reader takes the longest numeral at the front.
-/

namespace Keepalive.Toml

/-- Digits of a base with single underscores before some of them, and the rest. -/
def moreDigits (base : Nat) : List Char → List Nat × List Char
  | [] => ([], [])
  | '_' :: c :: r =>
    match Numeral.digit? base c with
    | some d => let (ds, rest) := moreDigits base r; (d :: ds, rest)
    | none => ([], '_' :: c :: r)
  | c :: r =>
    match Numeral.digit? base c with
    | some d => let (ds, rest) := moreDigits base r; (d :: ds, rest)
    | none => ([], c :: r)

/-- A digit and the digits after it. -/
def someDigits? (base : Nat) : List Char → Option (List Nat × List Char)
  | [] => none
  | c :: r => (Numeral.digit? base c).map fun d => let (ds, rest) := moreDigits base r; (d :: ds, rest)

/-- The base behind a mark. -/
def baseOf? : Char → Option Nat
  | 'x' => some 16
  | 'o' => some 8
  | 'b' => some 2
  | _ => none

/-- An integer behind a mark of its base. -/
def marked? : List Char → Option (Int × List Char)
  | '0' :: mark :: r => do
    let base ← baseOf? mark
    let (ds, rest) ← someDigits? base r
    pure ((Numeral.ofDigits base ds : Int), rest)
  | _ => none

/-- A whole part in decimal: a zero alone, or digits that do not begin with one. -/
def whole? : List Char → Option (List Nat × List Char)
  | '0' :: r => some ([0], r)
  | r => someDigits? 10 r

/-- The digits behind a point, if there is one with digits behind it. -/
def fraction : List Char → List Nat × List Char
  | '.' :: r => (someDigits? 10 r).getD ([], '.' :: r)
  | r => ([], r)

/-- The power of ten behind a letter `e`, if there is one with digits. -/
def power? : List Char → Option (Int × List Char)
  | c :: r =>
    if c == 'e' || c == 'E' then
      let (negative, r) := Binary64.splitSign r
      (someDigits? 10 r).map fun (ds, rest) =>
        let size := Numeral.ofDigits 10 ds
        (if negative then -(size : Int) else size, rest)
    else none
  | [] => none

/-- A number in decimal. -/
def decimal? (s : List Char) : Option (Except Fault Value × List Char) := do
  let (negative, r) := Binary64.splitSign s
  let (digits, r) ← whole? r
  let (places, r) := fraction r
  match places, power? r with
  | [], none =>
    let size := Numeral.ofDigits 10 digits
    if Numeral.digitLimit < digits.length then pure (.error (.longNumeral digits.length), r)
    else pure (.ok (.integer (if negative then -(size : Int) else size)), r)
  | places, power =>
    let (exponent, r) := power.getD (0, r)
    pure (.ok (.real (Binary64.ofDecimal negative (digits ++ places) (exponent - places.length))), r)

/-- A number. -/
def number? (s : List Char) : Option (Except Fault Value × List Char) :=
  match marked? s with
  | some (n, rest) => some (.ok (.integer n), rest)
  | none => decimal? s

/-- An infinite number or no number, with an optional sign. -/
def special? (s : List Char) : Option (Value × List Char) :=
  let (negative, r) := Binary64.splitSign s
  if ['i', 'n', 'f'].isPrefixOf r then some (.real (.infinite negative), r.drop 3)
  else if ['n', 'a', 'n'].isPrefixOf r then some (.real .nan, r.drop 3)
  else none

end Keepalive.Toml
