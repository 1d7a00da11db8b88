import Keepalive.Toml.Scan

/-!
# Texts of a document

Texts stand between quotes or apostrophes, on one line or, between three of them, on several. Only texts between quotes know
escapes. A text of several lines drops a line feed right after its opening and may end with one or two of its own marks.
-/

namespace Keepalive.Toml

/-- The character that a letter behind a backslash stands for. -/
def escaped? : Char → Option Char
  | 'b' => some '\x08'
  | 't' => some '\t'
  | 'n' => some '\n'
  | 'f' => some '\x0c'
  | 'r' => some '\r'
  | '\x22' => some '\x22'
  | '\\' => some '\\'
  | _ => none

/-- The digits of a character's code behind a letter. -/
def codeLength? : Char → Option Nat
  | 'u' => some 4
  | 'U' => some 8
  | _ => none

/-- Is the number the code of a character? -/
def isCode (n : Nat) : Bool := n < 0xd800 || (0xdfff < n && n < 0x110000)

/-- Where in a text between quotes the reader stands. -/
inductive Place where
  | inside
  /-- after a backslash -/
  | escape
  /-- in the code of a character: the digits still to come, and the value of those before -/
  | code (left value : Nat)
  /-- behind a backslash and blanks, on the way to the end of the line -/
  | lineEnd
  /-- behind a backslash and the end of its line, on the way to the next character -/
  | nextLine
  deriving DecidableEq, Repr

/-- May the character stand for itself in a text of this kind? -/
def isPlain (several : Bool) (c : Char) : Bool := !isForbidden c || (several && c == '\n')

/-- A text is put together from its end. -/
def prepend (c : Char) : List Char × List Char → List Char × List Char
  | (text, rest) => (c :: text, rest)

/-- One or two marks right after the end of a text of several lines belong to it. -/
def trailingMarks (mark : Char) : List Char → List Char × List Char
  | c :: d :: r => if c = mark then (if d = mark then ([c, d], r) else ([c], d :: r)) else ([], c :: d :: r)
  | [c] => if c = mark then ([c], []) else ([], [c])
  | [] => ([], [])

/-- The rest of a text between quotes, up to its end. -/
def quotedFrom (several : Bool) : Place → List Char → Except Fault (List Char × List Char)
  | _, [] => .error .malformed
  | .escape, c :: r =>
    match codeLength? c with
    | some left => quotedFrom several (.code left 0) r
    | none =>
      match escaped? c with
      | some x => (quotedFrom several .inside r).map (prepend x)
      | none =>
        if several && isSpace c then quotedFrom several .lineEnd r
        else if several && c == '\n' then quotedFrom several .nextLine r
        else .error .malformed
  | .code left value, c :: r =>
    match Numeral.digit? 16 c with
    | none => .error .malformed
    | some d =>
      let value := value * 16 + d
      if left ≤ 1 then
        if isCode value then (quotedFrom several .inside r).map (prepend (Char.ofNat value)) else .error .malformed
      else quotedFrom several (.code (left - 1) value) r
  | .lineEnd, c :: r =>
    if isSpace c then quotedFrom several .lineEnd r
    else if c == '\n' then quotedFrom several .nextLine r
    else .error .malformed
  | place, c :: r =>
    if place = .nextLine ∧ isGap c then quotedFrom several .nextLine r
    else if c == '\x22' then
      if several then
        if ['\x22', '\x22'].isPrefixOf r then .ok (trailingMarks '\x22' (r.drop 2))
        else (quotedFrom several .inside r).map (prepend c)
      else .ok ([], r)
    else if c == '\\' then quotedFrom several .escape r
    else if isPlain several c then (quotedFrom several .inside r).map (prepend c)
    else .error .malformed

/-- The rest of a text between apostrophes on one line. -/
def literalFrom : List Char → Except Fault (List Char × List Char)
  | [] => .error .malformed
  | c :: r =>
    if c == '\x27' then .ok ([], r)
    else if isPlain false c then (literalFrom r).map (prepend c)
    else .error .malformed

/-- The rest of a text between three apostrophes. -/
def longLiteralFrom : List Char → Except Fault (List Char × List Char)
  | [] => .error .malformed
  | c :: r =>
    if ['\x27', '\x27', '\x27'].isPrefixOf (c :: r) then .ok (trailingMarks '\x27' (r.drop 2))
    else if isPlain true c then (longLiteralFrom r).map (prepend c)
    else .error .malformed

/-- A text between quotes on one line. -/
def quoted : Scan (List Char) := do
  Scan.expect '\x22'
  Scan.run (quotedFrom false .inside)

/-- A text between apostrophes on one line. -/
def literal : Scan (List Char) := do
  Scan.expect '\x27'
  Scan.run literalFrom

/-- A text on one line or on several. -/
def text (mark : Char) : Scan (List Char) := do
  if ← Scan.accept [mark, mark, mark] then
    let _ ← Scan.accept ['\n']
    Scan.run (if mark = '\x22' then quotedFrom true .inside else longLiteralFrom)
  else if mark = '\x22' then quoted
  else literal

end Keepalive.Toml
