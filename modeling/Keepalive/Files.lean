import Keepalive.Bytes
import Keepalive.Path

/-!
# Files

Files and directories at their places in and around the working directory. `Files.resolve` follows a path name by name: each
name is looked up in a directory that must be there, and `..` leads out of it. What is found (`Files.find`), written
(`Files.write`) and made (`Files.makeDirectory`) is at the place where the path leads. Whether anything is there can be told of
every path (`Files.lookUp`) but one that is too long. Of the directories that the working directory lies in nothing is known but that
they are there, and the same holds of the root. There are no permissions: every file can be read and every directory looked into.
-/

namespace Keepalive

/-- What can be at a place. -/
inductive File where
  | directory
  | content (bytes : Bytes)
  deriving DecidableEq, Repr

/-- Why a path does not lead to what it is to be used for. -/
inductive FileFault where
  /-- nothing is there, or not all of the way -/
  | missing
  /-- the way leads through something that is no directory -/
  | notDirectory
  /-- a directory is there -/
  | isDirectory
  /-- something is there already -/
  | present
  | nameTooLong
  | nulCharacter
  deriving DecidableEq, Repr

/-- The wording of a fault, where it has one of its own. -/
def FileFault.message? : FileFault → Option String
  | nulCharacter => some "embedded null byte"
  | _ => none

/-- A directory that is always there. -/
inductive Anchor where
  | root
  /-- so many directories above the working directory -/
  | above (levels : Nat)
  deriving DecidableEq, Repr

/-- A place: an anchor and the names on the way down from it, none of them `..`. -/
structure Place where
  anchor : Anchor
  names : List String
  deriving DecidableEq, Repr

namespace Place

/-- The place that a path starts from. -/
def ofStart : Start → Place
  | .here => ⟨.above 0, []⟩
  | .root => ⟨.root, []⟩
  | .twoSlashes => ⟨.root, []⟩

/-- The directory that a place lies in; the root lies in itself. -/
def parent (place : Place) : Place :=
  match place.names, place.anchor with
  | [], .root => place
  | [], .above levels => ⟨.above (levels + 1), []⟩
  | names, anchor => ⟨anchor, names.dropLast⟩

/-- The place of a name in a directory. -/
def enter (place : Place) (name : String) : Place :=
  if name = ".." then place.parent else ⟨place.anchor, place.names ++ [name]⟩

end Place

/-- What is at each place that is no anchor. -/
structure Files where
  entries : List (Place × File)
  deriving DecidableEq, Repr

namespace Files

/-- No files at all. -/
def empty : Files := ⟨[]⟩

/-- One file in the working directory. -/
def only (name : String) (file : File) : Files := ⟨[(⟨.above 0, [name]⟩, file)]⟩

/-- What is at a place. -/
def at? (files : Files) (place : Place) : Option File :=
  if place.names.isEmpty then some .directory else files.entries.lookup place

/-- The same files but for what is at one place. -/
def put (files : Files) (place : Place) (file : File) : Files :=
  ⟨(place, file) :: files.entries.filter fun entry => entry.1 ≠ place⟩

/-- The most octets of a name. -/
def nameLimit : Nat := 255

/-- The most octets of a path. -/
def pathLimit : Nat := 4095

/-- The place that names lead to from a place. -/
def follow (files : Files) (place : Place) : List String → Except FileFault Place
  | [] => .ok place
  | name :: names =>
    match files.at? place with
    | none => .error .missing
    | some (.content _) => .error .notDirectory
    | some .directory =>
      if nameLimit < name.utf8ByteSize then .error .nameTooLong else files.follow (place.enter name) names

/-- The place that a path leads to. -/
def resolve (files : Files) (path : Path) : Except FileFault Place :=
  if '\x00' ∈ path.text.toList then .error .nulCharacter
  else if pathLimit < path.text.utf8ByteSize then .error .nameTooLong
  else files.follow (Place.ofStart path.start) path.names

/-- What is where a path leads. -/
def find (files : Files) (path : Path) : Except FileFault File := do
  match files.at? (← files.resolve path) with
  | some file => pure file
  | none => throw .missing

/-- What is where a path leads, if anything is. Of a path that is too long this cannot be told. -/
def lookUp (files : Files) (path : Path) : Except FileFault (Option File) :=
  match files.find path with
  | .ok file => .ok (some file)
  | .error .nameTooLong => .error .nameTooLong
  | .error _ => .ok none

section

variable {files : Files} {path : Path} {file : File}

/-- What is found is there. -/
theorem lookUp_eq_some_iff : files.lookUp path = .ok (some file) ↔ files.find path = .ok file := by
  rw [lookUp]
  split
  · rename_i found hfound
    rw [hfound, Except.ok.injEq, Option.some.injEq, Except.ok.injEq]
  · rename_i hfault
    rw [hfault]
    exact ⟨nofun, nofun⟩
  · rename_i hfault
    rw [hfault]
    exact ⟨nofun, nofun⟩

/-- Nothing is there when nothing is found, but not for a path that is too long. -/
theorem lookUp_eq_none_iff :
    files.lookUp path = .ok none ↔ ∃ fault, files.find path = .error fault ∧ fault ≠ .nameTooLong := by
  rw [lookUp]
  split
  · rename_i hfound
    rw [hfound]
    exact ⟨nofun, fun ⟨_, h, _⟩ => nomatch h⟩
  · rename_i hfault
    rw [hfault]
    exact ⟨nofun, fun ⟨_, h, hne⟩ => absurd (Except.error.inj h).symm hne⟩
  · rename_i fault hlong hfault
    rw [hfault]
    exact ⟨fun _ => ⟨fault, rfl, hlong⟩, fun _ => rfl⟩

/-- Nothing can be told of a path that is too long, and of no other. -/
theorem lookUp_eq_error_iff {fault : FileFault} :
    files.lookUp path = .error fault ↔ fault = .nameTooLong ∧ files.find path = .error .nameTooLong := by
  rw [lookUp]
  split
  · rename_i hfound
    rw [hfound]
    exact ⟨nofun, fun h => nomatch h.2⟩
  · rename_i hfault
    rw [hfault, Except.error.injEq]
    exact ⟨fun h => ⟨h.symm, rfl⟩, fun h => h.1.symm⟩
  · rename_i other hlong hfault
    rw [hfault]
    exact ⟨nofun, fun h => absurd (Except.error.inj h.2) hlong⟩

end

/-- Writes a file, over one that is there. -/
def write (files : Files) (path : Path) (content : Bytes) : Except FileFault Files := do
  let place ← files.resolve path
  if files.at? place = some .directory then throw .isDirectory
  pure (files.put place (.content content))

/-- Makes a directory where nothing is. -/
def makeDirectory (files : Files) (path : Path) : Except FileFault Files := do
  let place ← files.resolve path
  if (files.at? place).isSome then throw .present
  pure (files.put place .directory)

/-- Puts a file or a directory where a path leads. -/
def create (files : Files) (path : Path) : File → Except FileFault Files
  | .directory => files.makeDirectory path
  | .content bytes => files.write path bytes

end Files

end Keepalive
