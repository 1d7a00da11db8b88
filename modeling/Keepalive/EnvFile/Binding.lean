import Keepalive.Text.Blank

/-!
# Bindings of an environment file

An environment file holds bindings `NAME=value`, one after the other. A name may be quoted and may stand behind the word
`export`; a value may be quoted with either mark, over several lines, with escapes, or end with its line; a name without an
equals sign has no value. Comments begin with a number sign. Where the text does not go on as a binding must, the rest of that
line is passed over and nothing is bound.
-/

namespace Keepalive.EnvFile

open Keepalive.Text

/-- What one binding says. A comment alone has no name, and a name alone no value. -/
structure Binding where
  name : Option String
  value : Option String
  deriving DecidableEq, Repr

/-- Something taken off the front of a text and what is left, or where the text goes wrong. -/
abbrev Taken (α : Type) := Except (List Char) (α × List Char)

/-- The rest behind the blanks that do not end a line. -/
def dropInline (s : List Char) : List Char := s.dropWhile isInlineBlank

/-- The rest of a text up to the next line. -/
def dropLine (s : List Char) : List Char := (s.dropWhile (· != '\n')).drop 1

/-- The word `export` and blanks behind it are passed over. -/
def dropExport (s : List Char) : List Char :=
  let word := "export".toList
  if word.isPrefixOf s then
    let rest := s.drop word.length
    if (rest.head?.map isInlineBlank).getD false then dropInline rest else s
  else s

/-- A character that a bare name may hold. -/
def isNameChar (c : Char) : Bool := c != '=' && c != '#' && !isBlank c

/-- The name of a binding, if it has one. -/
def name (s : List Char) : Taken (Option String) :=
  match s with
  | '#' :: _ => .ok (none, s)
  | '\x27' :: r =>
    match r.span (· != '\x27') with
    | (text, _ :: rest) => if text.isEmpty then .error s else .ok (some (String.ofList text), rest)
    | (_, []) => .error s
  | _ =>
    let text := s.takeWhile isNameChar
    if text.isEmpty then .error s else .ok (some (String.ofList text), s.dropWhile isNameChar)

/-- The characters that letters behind a backslash stand for between double quotes; the marks stand for themselves. -/
def doubleEscapes : List (Char × Char) :=
  [('\\', '\\'), ('\x27', '\x27'), ('\x22', '\x22'), ('a', '\x07'), ('b', '\x08'), ('f', '\x0c'), ('n', '\n'), ('r', '\r'),
   ('t', '\t'), ('v', '\x0b')]

/-- The escapes between apostrophes. -/
def singleEscapes : List (Char × Char) := [('\\', '\\'), ('\x27', '\x27')]

/-- The rest of a quoted value up to its mark. A backslash and any character stand together; those that are no escape stand for
themselves. -/
def quotedFrom (mark : Char) (escapes : List (Char × Char)) : List Char → Option (List Char × List Char)
  | [] => none
  | ['\\'] => none
  | '\\' :: c :: r =>
    (quotedFrom mark escapes r).map fun (text, rest) =>
      match escapes.lookup c with
      | some x => (x :: text, rest)
      | none => ('\\' :: c :: text, rest)
  | c :: r =>
    if c = mark then some ([], r) else (quotedFrom mark escapes r).map fun (text, rest) => (c :: text, rest)

/-- Is a text blanks and then a number sign? -/
def startsComment : List Char → Bool
  | [] => false
  | c :: r => isBlank c && ((r.dropWhile isBlank).head? == some '#')

/-- A text before its first blank that leads to a number sign. -/
def beforeComment : List Char → List Char
  | [] => []
  | c :: r => if startsComment (c :: r) then [] else c :: beforeComment r

/-- The value of a line that is not quoted: without a comment behind a blank, and without blanks at its end. -/
def bareValue (line : List Char) : List Char := trimEnd isBlank (beforeComment line)

/-- The value behind an equals sign. -/
def value (s : List Char) : Taken String :=
  let rest := dropInline s
  if rest.length < s.length ∧ rest.head? = some '#' then .ok ("", rest)
  else
    match rest with
    | '\x27' :: r =>
      match quotedFrom '\x27' singleEscapes r with
      | some (text, rest) => .ok (String.ofList text, rest)
      | none => .error rest
    | '\x22' :: r =>
      match quotedFrom '\x22' doubleEscapes r with
      | some (text, rest) => .ok (String.ofList text, rest)
      | none => .error rest
    | [] => .ok ("", [])
    | '\n' :: r => .ok ("", '\n' :: r)
    | rest => .ok (String.ofList (bareValue (rest.takeWhile (· != '\n'))), rest.dropWhile (· != '\n'))

/-- The rest behind an optional comment. -/
def dropComment (s : List Char) : List Char :=
  match dropInline s with
  | '#' :: r => r.dropWhile (· != '\n')
  | _ => s

/-- The rest behind the end of a line. -/
def endLine (s : List Char) : Taken Unit :=
  match dropInline s with
  | [] => .ok ((), [])
  | '\n' :: r => .ok ((), r)
  | _ => .error s

/-- A binding at the front of a text. -/
def binding (s : List Char) : Except (List Char) (Binding × List Char) := do
  let (name, s) ← name (dropExport s)
  let (value, s) ← match dropInline s with
    | '=' :: r => (value r).map fun (text, rest) => (some text, rest)
    | rest => .ok (none, rest)
  let ((), s) ← endLine (dropComment s)
  pure (⟨name, value⟩, s)

/-- All bindings of a text. Each takes something off the text, so that as many steps as the text has characters are enough. -/
def bindingsFrom : Nat → List Char → List Binding
  | 0, _ => []
  | steps + 1, s =>
    match s.dropWhile isBlank with
    | [] => []
    | s =>
      match binding s with
      | .ok (b, rest) => b :: bindingsFrom steps rest
      | .error rest => bindingsFrom steps (dropLine rest)

/-- All bindings of a text. -/
def bindings (s : List Char) : List Binding := bindingsFrom s.length s

end Keepalive.EnvFile
