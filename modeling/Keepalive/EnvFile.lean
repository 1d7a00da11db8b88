import Keepalive.EnvFile.Binding

/-!
# Environment files

The bindings of an environment file are resolved in order: a value may name variables as `${NAME}` or, with a text for one
that is missing, as `${NAME:-text}`. Names bound before in the file are looked up first, then the environment. What comes out
are the names in the order of their first bindings, each with the value of its last.
-/

namespace Keepalive.EnvFile

open Keepalive.Text

/-- What a name is bound to in the file, if it is bound: a value or none. -/
abbrev Resolved := List (String × Option String)

/-- A variable in a value: its name and the text for it when it is missing, and what follows. -/
structure Reference where
  name : List Char
  standard : List Char
  rest : List Char

/-- The reference behind a dollar sign and an opening brace. -/
def reference? (s : List Char) : Option Reference :=
  let (name, rest) := s.span fun c => c != '\x7d' && c != ':'
  match rest with
  | '\x7d' :: rest => some ⟨name, [], rest⟩
  | ':' :: '-' :: rest =>
    match rest.span (· != '\x7d') with
    | (standard, '\x7d' :: rest) => some ⟨name, standard, rest⟩
    | _ => none
  | _ => none

/-- A value with its references replaced by what a look-up finds: a text, nothing, or that the name is missing. What is put in
is not looked at again. -/
def expandFrom (lookup : String → Option (Option String)) : Nat → List Char → List Char
  | 0, s => s
  | _ + 1, [] => []
  | steps + 1, '$' :: '\x7b' :: s =>
    match reference? s with
    | some reference =>
      let found := (lookup (String.ofList reference.name)).getD (some (String.ofList reference.standard))
      (found.getD "").toList ++ expandFrom lookup steps reference.rest
    | none => '$' :: expandFrom lookup steps ('\x7b' :: s)
  | steps + 1, c :: s => c :: expandFrom lookup steps s

/-- A value with its references replaced. -/
def expand (lookup : String → Option (Option String)) (value : String) : String :=
  String.ofList (expandFrom lookup value.toList.length value.toList)

/-- Binds a name to a value: in place when it is bound already, else at the end. -/
def Resolved.bind (name : String) (value : Option String) : Resolved → Resolved
  | [] => [(name, value)]
  | (key, old) :: rest => if key = name then (key, value) :: rest else (key, old) :: Resolved.bind name value rest

/-- One more binding. -/
def resolveOne (environment : String → Option String) (resolved : Resolved) (b : Binding) : Resolved :=
  match b.name with
  | none => resolved
  | some name =>
    let lookup (key : String) : Option (Option String) :=
      match resolved.lookup key with
      | some bound => some bound
      | none => (environment key).map some
    resolved.bind name (b.value.map (expand lookup))

/-- The names that bindings bind, with their values. -/
def resolve (environment : String → Option String) (bindings : List Binding) : Resolved :=
  bindings.foldl (resolveOne environment) []

/-- The values to be set, in order: a name whose last binding has no value is not among them. -/
def Resolved.values (resolved : Resolved) : List (String × String) :=
  resolved.filterMap fun (name, value) => value.map (name, ·)

/-- A text with line feeds alone at the ends of its lines. -/
def joinLineEnds : List Char → List Char
  | '\r' :: '\n' :: r => '\n' :: joinLineEnds r
  | '\r' :: r => '\n' :: joinLineEnds r
  | c :: r => c :: joinLineEnds r
  | [] => []

/-- A text without a byte order mark in front. -/
def dropMark : List Char → List Char
  | '\uFEFF' :: r => r
  | s => s

/-- The values that a file's text sets in an environment. -/
def values (environment : String → Option String) (text : String) : List (String × String) :=
  (resolve environment (bindings (dropMark (joinLineEnds text.toList)))).values

end Keepalive.EnvFile
