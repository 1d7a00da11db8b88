import Keepalive.Binary64.Shortest
import Keepalive.Calendar
import Keepalive.Text.Quoted

/-!
# Values

What a setting may hold before it is understood: text, numbers, truth values, dates and times, nothing, lists and tables. These
are the values of documents and of variables, where all settings are from; an address that is one already is no raw value.
`Value.plain` is the text of a value that stands alone, `Value.nested` the text of one inside a list or a table. There is
none when it would hold a number beyond the limit of decimal text, or when values nest deeper than there is room for; of the two,
what is met first counts.
-/

namespace Keepalive

/-- Why a value has no text. -/
inductive TextFault where
  /-- a number beyond the limit of decimal text -/
  | longNumber
  /-- more values inside each other than can be written -/
  | tooDeep
  deriving DecidableEq, Repr

/-- A value of a setting, as documents and variables give it. -/
inductive Value where
  | text (text : String)
  | integer (number : Int)
  | boolean (truth : Bool)
  | real (number : Binary64)
  | null
  | list (items : List Value)
  | table (entries : List (String × Value))
  | date (date : Date)
  | time (time : Time)
  | moment (moment : Moment)
  deriving Inhabited

namespace Value

/-- The text of a truth value. -/
def truthText (truth : Bool) : String := if truth then "True" else "False"

/-- Items between brackets with commas between them. -/
def bracketed (opening closing : String) (items : List String) : String :=
  opening ++ ", ".intercalate items ++ closing

/-- The decimal text of a number, if it can be written. -/
def numberText (number : Int) : Except TextFault String :=
  match Numeral.decimal? number with
  | some written => .ok written
  | none => .error .longNumber

mutual

/-- The text of a value inside a list or a table, where so many values can still be inside each other. -/
def nested (room : Nat) (value : Value) : Except TextFault String :=
  if room = 0 then .error .tooDeep
  else
    match value with
    | text t => .ok (Text.Quoted.text t)
    | integer n => numberText n
    | boolean b => .ok (truthText b)
    | real x => .ok x.text
    | null => .ok "None"
    | list items => (nestedItems (room - 1) items).map (bracketed "[" "]")
    | table entries => (nestedEntries (room - 1) entries).map (bracketed "\x7b" "\x7d")
    | date d => .ok d.nested
    | time t => .ok t.nested
    | moment m => .ok m.nested

/-- The texts of the items of a list. -/
def nestedItems (room : Nat) : List Value → Except TextFault (List String)
  | [] => .ok []
  | item :: items => do
    let first ← nested room item
    let rest ← nestedItems room items
    pure (first :: rest)

/-- The texts of the entries of a table, each its key and its value. -/
def nestedEntries (room : Nat) : List (String × Value) → Except TextFault (List String)
  | [] => .ok []
  | (key, value) :: entries => do
    let first ← nested room value
    let rest ← nestedEntries room entries
    pure ((Text.Quoted.text key ++ ": " ++ first) :: rest)

end

/-- The text of a value that stands alone, where so many values can be inside each other, the outermost and the innermost
counted. -/
def plain (room : Nat) : Value → Except TextFault String
  | text t => .ok t
  | integer n => numberText n
  | boolean b => .ok (truthText b)
  | real x => .ok x.text
  | null => .ok "None"
  | date d => .ok d.plain
  | time t => .ok t.plain
  | moment m => .ok m.plain
  | list items => nested room (list items)
  | table entries => nested room (table entries)

end Value

/-- Entries by name, in order. -/
abbrev Entries := List (String × Value)

/-- The value of a name. -/
def Entries.get? (entries : Entries) (name : String) : Option Value := entries.lookup name

end Keepalive
