import Keepalive.Bytes
import Keepalive.Text.Numeral
import Keepalive.Text.Printable

/-!
# Quoted text and bytes

How a text or a byte string is shown inside a message or a list: between apostrophes, or between double quotes when it
holds an apostrophe and no double quote. The quote and the backslash stand behind a backslash, tab, line feed and carriage
return are letters behind one, and whatever is not printable is its code in hexadecimal: two digits behind `\x`, four behind
`\u` or eight behind `\U`.
-/

namespace Keepalive.Text.Quoted

/-- The mark around a text: a double quote when the text holds an apostrophe and no double quote, else an apostrophe. -/
def mark (s : List Char) : Char := if '\x27' ∈ s ∧ '\x22' ∉ s then '\x22' else '\x27'

/-- A backslash, a letter and a code in hexadecimal of the given width. -/
def code (letter : Char) (width n : Nat) : List Char :=
  '\\' :: letter :: Numeral.padded width (Nat.toDigits 16 n)

/-- The escape of a character that never stands for itself, whatever surrounds it. -/
def letter? (c : Char) : Option Char :=
  if c = '\t' then some 't'
  else if c = '\n' then some 'n'
  else if c = '\r' then some 'r'
  else none

/-- A character of a text between two marks. -/
def char (quote c : Char) : List Char :=
  if c = quote ∨ c = '\\' then ['\\', c]
  else match letter? c with
    | some l => ['\\', l]
    | none =>
      if isPrintable c then [c]
      else if c.toNat < 0x100 then code 'x' 2 c.toNat
      else if c.toNat < 0x10000 then code 'u' 4 c.toNat
      else code 'U' 8 c.toNat

/-- A text in its quoted form. -/
def text (s : String) : String :=
  let quote := mark s.toList
  String.ofList (quote :: s.toList.flatMap (char quote) ++ [quote])

/-- An octet of a byte string between two marks: as an ASCII character when that is printable. -/
def octet (quote : Char) (b : UInt8) : List Char :=
  let c := Char.ofNat b.toNat
  if c = quote ∨ c = '\\' then ['\\', c]
  else match letter? c with
    | some l => ['\\', l]
    | none => if 0x20 ≤ b.toNat ∧ b.toNat < 0x7f then [c] else code 'x' 2 b.toNat

/-- A byte string in its quoted form, behind the letter `b`. -/
def bytes (b : Bytes) : String :=
  let quote := mark (b.map fun x => Char.ofNat x.toNat)
  String.ofList ('b' :: quote :: b.flatMap (octet quote) ++ [quote])

end Keepalive.Text.Quoted
