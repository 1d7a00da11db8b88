import Keepalive.Toml.Scan
import Keepalive.Value

/-!
# The tables of a document

A document grows statement by statement: a header opens a table or appends one to an array of tables, and an entry is put
under a dotted name. Values and tables between braces are closed to all later statements, and a table is opened by one
header only. A table that a dotted name made stays open to dotted names until the next header; each header starts a new
section, and sections are numbered.
-/

namespace Keepalive.Toml

/-- How a table came to be. -/
inductive Standing where
  /-- on the way to a table below it -/
  | implied
  /-- by a header of its own -/
  | opened
  /-- by a dotted name in a section -/
  | dotted (number : Nat)
  deriving DecidableEq, Repr

/-- A place in a document. -/
inductive Node where
  | leaf (value : Value)
  | table (standing : Standing) (entries : List (String × Node))
  /-- tables under one name: the finished ones, and the last, which later statements may add to -/
  | tables (finished : List (List (String × Node))) (last : List (String × Node))

/-- Places by name, in the order in which they came. -/
abbrev Nodes := List (String × Node)

/-- May a dotted name of a section go through a table? -/
def Standing.admits (current : Nat) : Standing → Bool
  | implied => true
  | opened => false
  | dotted number => number == current

namespace Nodes

/-- Changes what is under a name, or puts something there; a new name goes to the end. -/
def change (name : String) (f : Option Node → Except Fault Node) : Nodes → Except Fault Nodes
  | [] => (f none).map fun node => [(name, node)]
  | (key, node) :: rest =>
    if key = name then (f (some node)).map fun node => (key, node) :: rest
    else (change name f rest).map ((key, node) :: ·)

/-- Goes to the table at the end of a path of names, making tables on the way where there are none, and changes what is under a
last name in it. -/
def below : List String → String → (Option Node → Except Fault Node) → Nodes → Except Fault Nodes
  | [], name, f, nodes => nodes.change name f
  | key :: path, name, f, nodes =>
    nodes.change key fun
      | none => (below path name f []).map (Node.table .implied)
      | some (.table standing entries) => (below path name f entries).map (Node.table standing)
      | some (.tables finished last) => (below path name f last).map (Node.tables finished)
      | some (.leaf _) => .error .malformed

/-- Opens a table under a name. -/
def openTable : Option Node → Except Fault Node
  | none => .ok (.table .opened [])
  | some (.table .implied entries) => .ok (.table .opened entries)
  | _ => .error .malformed

/-- Appends a table to those under a name. -/
def appendTable : Option Node → Except Fault Node
  | none => .ok (.tables [] [])
  | some (.tables finished last) => .ok (.tables (finished ++ [last]) [])
  | _ => .error .malformed

/-- Puts a value where there is nothing yet. -/
def putValue (value : Value) : Option Node → Except Fault Node
  | none => .ok (.leaf value)
  | some _ => .error .malformed

/-- Puts a value under a dotted name: through tables that admit the section, made where there are none. -/
def put (number : Nat) (value : Value) : List String → String → Nodes → Except Fault Nodes
  | [], name, nodes => nodes.change name (putValue value)
  | key :: path, name, nodes =>
    nodes.change key fun
      | none => (put number value path name []).map (Node.table (.dotted number))
      | some (.table standing entries) =>
        if standing.admits number then (put number value path name entries).map (Node.table (.dotted number))
        else .error .malformed
      | _ => .error .malformed

/-- Changes all places of the table at the end of a path of names. -/
def inside (f : Nodes → Except Fault Nodes) : List String → Nodes → Except Fault Nodes
  | [], nodes => f nodes
  | key :: path, nodes =>
    nodes.change key fun
      | some (.table standing entries) => (inside f path entries).map (Node.table standing)
      | some (.tables finished last) => (inside f path last).map (Node.tables finished)
      | _ => .error .malformed

end Nodes

mutual

/-- The value at a place. -/
def Node.value : Node → Value
  | .leaf value => value
  | .table _ entries => .table (entryValues entries)
  | .tables finished last => .list (tableValues finished ++ [.table (entryValues last)])

/-- The values of places by name. -/
def entryValues : List (String × Node) → Entries
  | [] => []
  | (name, node) :: rest => (name, node.value) :: entryValues rest

/-- The tables of an array of tables. -/
def tableValues : List (List (String × Node)) → List Value
  | [] => []
  | entries :: rest => .table (entryValues entries) :: tableValues rest

end

end Keepalive.Toml
