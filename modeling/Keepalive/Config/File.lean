import Keepalive.Config.Document
import Keepalive.Files
import Keepalive.Text.Utf8
import Keepalive.Toml.Document

/-!
# Configuration files

A configuration file is a document in UTF-8. That there is none, that it cannot be read and that its text is no document are
faults that are reported. Whether there is one cannot be told of a path that is too long, and this is not.
-/

namespace Keepalive.Config

/-- The name of the file in the working directory. -/
def fileName : String := "config.toml"

/-- The path of the file in the working directory. -/
def filePath : Path := ⟨.here, [fileName]⟩

/-- The document of a file's octets. -/
def documentOfBytes [Depths] (octets : Bytes) : Except LoadFault Entries :=
  match Text.ofUtf8? octets with
  | none => .error .undecodable
  | some text =>
    match Toml.document Depths.document text with
    | .ok document => .ok document
    | .error .malformed => .error (.rejected .unreadable)
    | .error (.longNumeral digits) => .error (.longNumeral digits)
    | .error .tooDeep => .error .tooDeep

/-- The document of the file where a path leads. -/
def documentOf [Depths] (files : Files) (path : Path) : Except LoadFault Entries :=
  match files.lookUp path with
  | .error _ => .error .pathTooLong
  | .ok none => .error (.rejected (.noFile path.text))
  | .ok (some .directory) => .error (.rejected .unreadable)
  | .ok (some (.content octets)) => documentOfBytes octets

/-- Loads the configuration of a file for a profile. -/
def loadFile [Depths] (files : Files) (path : Path) (profile : String) : Logged LoadFault Config := do
  let document ← Logged.ofExcept (documentOf files path)
  loadDocument document profile

end Keepalive.Config
