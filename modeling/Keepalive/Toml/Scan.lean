import Keepalive.Text.Numeral

/-!
# Scanning a document

A scan takes something off the front of a text and leaves the rest, or finds that the text is no document. All that is wrong
with a document is one fault, but for numerals beyond the limit of decimal text and values that nest too deep.
-/

namespace Keepalive.Toml

/-- Why a text is no document. -/
inductive Fault where
  | malformed
  /-- an integer of more digits than can be read -/
  | longNumeral (digits : Nat)
  /-- a value inside more values than there is room for -/
  | tooDeep
  deriving DecidableEq, Repr

/-- Takes something off the front of a text. -/
abbrev Scan := StateT (List Char) (Except Fault)

namespace Scan

variable {α : Type}

/-- Finds the text malformed. -/
def fail : Scan α := throw .malformed

/-- The next character, which stays where it is. -/
def peek : Scan (Option Char) := fun s => .ok (s.head?, s)

/-- Takes the next character. -/
def next : Scan (Option Char) := fun s => .ok (s.head?, s.tail)

/-- Takes a character that must be next. -/
def expect (c : Char) : Scan Unit := do
  if (← next) ≠ some c then fail

/-- Takes a text if it is next. -/
def accept (text : List Char) : Scan Bool := fun s =>
  if text.isPrefixOf s then .ok (true, s.drop text.length) else .ok (false, s)

/-- Takes all characters of a class. -/
def takeAll (p : Char → Bool) : Scan (List Char) := fun s => .ok (s.takeWhile p, s.dropWhile p)

/-- Passes over all characters of a class. -/
def skipAll (p : Char → Bool) : Scan Unit := fun s => .ok ((), s.dropWhile p)

/-- Takes what a reader finds at the front, if it finds something. -/
def attempt (read : List Char → Option (α × List Char)) : Scan (Option α) := fun s =>
  match read s with
  | some (a, rest) => .ok (some a, rest)
  | none => .ok (none, s)

/-- Takes what a structural reader takes. -/
def run (read : List Char → Except Fault (α × List Char)) : Scan α := fun s => read s

end Scan

/-- Space and tab. -/
def isSpace (c : Char) : Bool := c == ' ' || c == '\t'

/-- Space, tab and line feed. -/
def isGap (c : Char) : Bool := isSpace c || c == '\n'

/-- The characters that no line may hold: the controls, but for the tab. -/
def isForbidden (c : Char) : Bool := (c.toNat < 32 && c != '\t') || c.toNat == 127

/-- Passes over spaces and tabs. -/
def spaces : Scan Unit := Scan.skipAll isSpace

/-- Passes over a comment, up to the end of its line. -/
def comment : Scan Unit := do
  if (← Scan.peek) = some '#' then
    let text ← Scan.takeAll (· != '\n')
    if text.any isForbidden then Scan.fail

/-- Passes over gaps and comments; the flag says whether a comment is open. -/
def gapsFrom : Bool → List Char → Except Fault (Unit × List Char)
  | _, [] => .ok ((), [])
  | false, c :: r =>
    if isGap c then gapsFrom false r
    else if c == '#' then gapsFrom true r
    else .ok ((), c :: r)
  | true, c :: r =>
    if c == '\n' then gapsFrom false r
    else if isForbidden c then .error .malformed
    else gapsFrom true r

/-- Passes over gaps and comments. -/
def gaps : Scan Unit := Scan.run (gapsFrom false)

end Keepalive.Toml
