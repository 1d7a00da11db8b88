/-!
# Paths

A path is a start and the names after it. Its text joins the names with slashes; two slashes in a row mean the same as one,
and the name `.` means nothing, so that `Path.ofText` leaves both out. The name `..` stays: where it leads is up to the files
that are there.
-/

namespace Keepalive

/-- Where a path starts. -/
inductive Start where
  /-- at the working directory -/
  | here
  /-- at the root -/
  | root
  /-- at the root, written with two slashes, which are kept -/
  | twoSlashes
  deriving DecidableEq, Repr

/-- A start and names after it. -/
structure Path where
  start : Start
  names : List String
  deriving DecidableEq, Repr

namespace Path

/-- The start of a path whose text begins with so many slashes. -/
def startOf (slashes : Nat) : Start :=
  if slashes = 0 then .here else if slashes = 2 then .twoSlashes else .root

/-- Is this part of a path's text a name? -/
def isName (part : List Char) : Bool := !part.isEmpty && part != ['.']

/-- The path a text spells. -/
def ofText (text : String) : Path where
  start := startOf (text.toList.takeWhile (· == '/')).length
  names := ((text.toList.splitOn '/').filter isName).map String.ofList

/-- The text of a path; a point stands for the working directory. -/
def text (path : Path) : String :=
  let names := "/".intercalate path.names
  match path.start with
  | .here => if path.names.isEmpty then "." else names
  | .root => "/" ++ names
  | .twoSlashes => "//" ++ names

end Path

end Keepalive
