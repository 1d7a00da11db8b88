import Keepalive.Text.Utf8
import Keepalive.Toml.Moment
import Keepalive.Toml.Number
import Keepalive.Toml.Text
import Keepalive.Toml.Tree

/-!
# Documents

A document is lines of statements: headers in brackets and entries `name = value`, with blank lines and comments between
them. `Toml.document` reads a text into the table of its settings. Values nest and lines follow each other, so these
readers take a number of steps that is never used up, the length of the text.

Values nest only as far as there is room, which is given: a list takes some of it for its items, and a table in braces somewhat
more for its entries.
-/

namespace Keepalive.Toml

/-! ## Names -/

/-- A character of a bare name. -/
def isBare (c : Char) : Bool := c.isAlphanum || c == '-' || c == '_'

/-- A character that a name can begin with. -/
def startsName (c : Char) : Bool := isBare c || c == '\x22' || c == '\x27'

/-- A name without dots. -/
def simpleName : Scan String := do
  match ← Scan.peek with
  | some '\x22' => String.ofList <$> quoted
  | some '\x27' => String.ofList <$> literal
  | some c => if isBare c then String.ofList <$> Scan.takeAll isBare else Scan.fail
  | none => Scan.fail

/-- A dotted name: the names on the way, and the last. -/
structure Name where
  path : List String
  last : String
  deriving DecidableEq, Repr

/-- All names of a dotted name. -/
def Name.full (name : Name) : List String := name.path ++ [name.last]

/-- A dotted name, with spaces around its dots and after it. -/
def dottedName : Nat → Scan Name
  | 0 => Scan.fail
  | steps + 1 => do
    let first ← simpleName
    spaces
    if ← Scan.accept ['.'] then
      spaces
      let rest ← dottedName steps
      pure ⟨first :: rest.path, rest.last⟩
    else pure ⟨[], first⟩

/-! ## Values -/

/-- A value that holds no other. -/
def simpleValue : Scan Value := do
  if ← Scan.accept ['t', 'r', 'u', 'e'] then return .boolean true
  if ← Scan.accept ['f', 'a', 'l', 's', 'e'] then return .boolean false
  if let some found ← Scan.attempt dateOrMoment? then return ← StateT.lift found
  if let some time ← Scan.attempt time? then return .time time
  if let some found ← Scan.attempt number? then return ← StateT.lift found
  if let some value ← Scan.attempt special? then return value
  Scan.fail

/-- The room that a list takes. -/
def listRoom : Nat := 2

/-- The room that a table in braces takes. -/
def tableRoom : Nat := 3

/-- What is left of the room when some is taken. -/
def narrow (taken room : Nat) : Scan Nat := if taken ≤ room then pure (room - taken) else throw .tooDeep

mutual

/-- A value. -/
def value (room : Nat) : Nat → Scan Value
  | 0 => Scan.fail
  | steps + 1 => do
    match ← Scan.peek with
    | some '\x22' => (fun t => .text (String.ofList t)) <$> text '\x22'
    | some '\x27' => (fun t => .text (String.ofList t)) <$> text '\x27'
    | some '[' =>
      Scan.expect '['
      .list <$> items (← narrow listRoom room) steps
    | some '\x7b' =>
      Scan.expect '\x7b'
      let room ← narrow tableRoom room
      spaces
      if ← Scan.accept ['\x7d'] then pure (.table [])
      else (fun nodes => .table (entryValues nodes)) <$> inlineEntries room steps []
    | _ => simpleValue

/-- The items of a list up to its end; a comma may follow the last. -/
def items (room : Nat) : Nat → Scan (List Value)
  | 0 => Scan.fail
  | steps + 1 => do
    gaps
    if ← Scan.accept [']'] then pure []
    else
      let first ← value room steps
      gaps
      if ← Scan.accept [','] then (first :: ·) <$> items room steps
      else
        Scan.expect ']'
        pure [first]

/-- A name, an equals sign and a value. -/
def entry (room : Nat) : Nat → Scan (Name × Value)
  | 0 => Scan.fail
  | steps + 1 => do
    let name ← dottedName steps
    Scan.expect '='
    spaces
    let value ← value room steps
    pure (name, value)

/-- The entries of a table between braces up to its end, put into those before them. -/
def inlineEntries (room : Nat) : Nat → Nodes → Scan Nodes
  | 0, _ => Scan.fail
  | steps + 1, nodes => do
    let (name, value) ← entry room steps
    let nodes ← StateT.lift (nodes.put 0 value name.path name.last)
    spaces
    if ← Scan.accept [','] then
      spaces
      inlineEntries room steps nodes
    else
      Scan.expect '\x7d'
      pure nodes

end

/-! ## Statements -/

/-- A document as far as it has been read: the table that entries go to, the number of its section, and all places. -/
structure Progress where
  header : List String
  number : Nat
  nodes : Nodes

/-- A header: of a table in single brackets, of a table of an array in double ones. -/
def header (steps : Nat) (progress : Progress) : Scan Progress := do
  let appends ← Scan.accept ['[', '[']
  if !appends then Scan.expect '['
  spaces
  let name ← dottedName steps
  let made := if appends then Nodes.appendTable else Nodes.openTable
  let nodes ← StateT.lift (progress.nodes.below name.path name.last made)
  Scan.expect ']'
  if appends then Scan.expect ']'
  pure ⟨name.full, progress.number + 1, nodes⟩

/-- An entry of the table that the last header opened. -/
def statementEntry (room steps : Nat) (progress : Progress) : Scan Progress := do
  let (name, value) ← entry room steps
  let nodes ← StateT.lift (progress.nodes.inside (Nodes.put progress.number value name.path name.last) progress.header)
  pure { progress with nodes := nodes }

/-- A header, an entry or nothing. -/
def statement (room steps : Nat) (progress : Progress) : Scan Progress := do
  match ← Scan.peek with
  | some '[' => header steps progress
  | some c => if startsName c then statementEntry room steps progress else pure progress
  | none => pure progress

/-- Statements, each with an optional comment behind it on a line of its own. -/
def statements (room most : Nat) : Nat → Progress → Scan Progress
  | 0, progress => pure progress
  | lines + 1, progress => do
    spaces
    let progress ← statement room most progress
    spaces
    comment
    match ← Scan.next with
    | none => pure progress
    | some '\n' => statements room most lines progress
    | some _ => Scan.fail

/-- Line feeds alone end lines. -/
def joinLineEnds : List Char → List Char
  | '\r' :: '\n' :: r => '\n' :: joinLineEnds r
  | c :: r => c :: joinLineEnds r
  | [] => []

/-- The table of a document's settings, where the values of an entry nest in so much room. -/
def document (room : Nat) (source : String) : Except Fault Entries :=
  let chars := joinLineEnds source.toList
  let steps := 2 * chars.length + 2
  (statements room steps steps ⟨[], 0, []⟩ chars).map fun result => entryValues result.1.nodes

end Keepalive.Toml
