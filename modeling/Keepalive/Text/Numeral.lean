import Keepalive.Text.Blank
import Keepalive.Text.DecimalDigit

/-!
# Integers as text

Writing: decimal digits, and hexadecimal digits behind `0x` at a least width. Reading: an optional sign and digits with
single underscores between them, surrounded by narrow blanks, where a decimal digit of any script counts as a digit and
a blank beyond ASCII as a space. Texts of more than `digitLimit` decimal digits are neither read nor written.
-/

namespace Keepalive.Numeral

open Keepalive.Text

/-- The longest decimal text that is read or written, in digits. -/
def digitLimit : Nat := 4300

/-- What a digit one stands for in a place, counted from zero at the last place. -/
def weight (base place : Nat) : Nat := Nat.pow base place

/-! ## Writing -/

/-- Decimal text, with a minus sign when negative. -/
def decimal (n : Int) : String :=
  (if n < 0 then "-" else "") ++ String.ofList (Nat.toDigits 10 n.natAbs)

/-- Does the decimal text of the number stay within the limit? -/
def fits (n : Int) : Bool := n.natAbs < weight 10 digitLimit

/-- A place further to the left weighs no less. -/
theorem weight_mono {base small large : Nat} (hb : 0 < base) (h : small ≤ large) : weight base small ≤ weight base large :=
  Nat.pow_le_pow_right hb h

/-- Small numbers stay within the limit of decimal text. -/
theorem fits_of_lt {number : Int} (h0 : 0 ≤ number) (h : number < 0x8000000000000000) : fits number = true := by
  have hsmall : number.natAbs < weight 10 19 := by
    have hweight : weight 10 19 = 10000000000000000000 := rfl
    omega
  exact decide_eq_true (Nat.lt_of_lt_of_le hsmall (weight_mono (Nat.succ_pos 9) (by decide)))

/-- Decimal text within the limit. -/
def decimal? (n : Int) : Option String := if fits n then some (decimal n) else none

/-- The wording of the refusal of decimal text beyond the limit. -/
def limitWording : String :=
  "Exceeds the limit (4300 digits) for integer string conversion; use sys.set_int_max_str_digits() to increase the limit"

/-- What comes of naming a number in decimal: one thing when the number can be written, and another when it cannot. -/
def naming {α : Type} (number : Int) (written unwritten : α) : α := if fits number then written else unwritten

theorem naming_of_fits {α : Type} {number : Int} (h : fits number = true) (written unwritten : α) :
    naming number written unwritten = written := if_pos h

theorem naming_of_not_fits {α : Type} {number : Int} (h : fits number = false) (written unwritten : α) :
    naming number written unwritten = unwritten := if_neg (Bool.eq_false_iff.mp h)

/-- Digits filled up with zeros on the left to a least width. -/
def padded (width : Nat) (digits : List Char) : List Char :=
  List.replicate (width - digits.length) '0' ++ digits

/-- Decimal text of a natural number, filled up with zeros to a least width. -/
def padDecimal (width n : Nat) : String := String.ofList (padded width (Nat.toDigits 10 n))

/-- Hexadecimal text behind `0x`, filled up with zeros so that sign, mark and digits take a least width. -/
def prefixedHex (width : Nat) (n : Int) : String :=
  let sign := if n < 0 then "-" else ""
  sign ++ "0x" ++ String.ofList (padded (width - sign.length - 2) (Nat.toDigits 16 n.natAbs))

/-! ## Reading -/

/-- A character as numerals see it: a decimal digit of any script is its ASCII digit, and a blank beyond ASCII a space. -/
def plain (c : Char) : Char :=
  if c.toNat < 128 then c
  else if isBlank c then ' '
  else match digitValue? c with
    | some d => Char.ofNat (48 + d)
    | none => c

/-- The value of an ASCII digit or letter as a digit, when it is below the base. -/
def digit? (base : Nat) (c : Char) : Option Nat :=
  let n := c.toNat
  let v :=
    if 48 ≤ n ∧ n ≤ 57 then some (n - 48)
    else if 97 ≤ n ∧ n ≤ 122 then some (n - 87)
    else if 65 ≤ n ∧ n ≤ 90 then some (n - 55)
    else none
  v.filter (· < base)

/-- The digits of a text that holds at least one digit and single underscores between digits, and nothing else. -/
def digits? (base : Nat) : List Char → Option (List Nat)
  | [] => none
  | [c] => (digit? base c).map ([·])
  | c :: '_' :: r => do
    let d ← digit? base c
    let ds ← digits? base r
    pure (d :: ds)
  | c :: r => do
    let d ← digit? base c
    let ds ← digits? base r
    pure (d :: ds)

/-- The number whose digits these are, the most significant first. -/
def ofDigits (base : Nat) (ds : List Nat) : Nat := ds.foldl (fun acc d => acc * base + d) 0

/-- A decimal numeral without sign or blanks. -/
def natural? (s : List Char) : Option Nat := do
  let ds ← digits? 10 s
  if ds.length ≤ digitLimit then some (ofDigits 10 ds) else none

/-- A decimal numeral with an optional sign. -/
def signed? : List Char → Option Int
  | '+' :: r => (natural? r).map Int.ofNat
  | '-' :: r => (natural? r).map fun n => -(n : Int)
  | r => (natural? r).map Int.ofNat

/-- The integer a text spells in decimal: a signed numeral between narrow blanks. -/
def integer? (s : List Char) : Option Int := signed? (trim isNarrowBlank (s.map plain))

/-- The number a text spells in hexadecimal behind the mark `0x`, with an optional underscore after the mark. -/
def marked? (s : List Char) : Option Nat :=
  match trim isNarrowBlank (s.map plain) with
  | '0' :: 'x' :: '_' :: r => (digits? 16 r).map (ofDigits 16)
  | '0' :: 'x' :: r => (digits? 16 r).map (ofDigits 16)
  | _ => none

/-- The integer a text spells in either base: hexadecimal when it starts with `0x` in letters of either case, else decimal.
White space around it does not matter. -/
def eitherBase? (s : List Char) : Option Int :=
  let t := (trim isBlank s).map Char.toLower
  if ['0', 'x'].isPrefixOf t then (marked? t).map Int.ofNat else integer? t

end Keepalive.Numeral
