import Keepalive.Config.File

/-!
# The environment

Six variables hold settings. Loading from the environment may first read an environment file, whose values are then set in the
environment, over those that are there, and stay there whatever becomes of the configuration. How such a file is read is up to what
reads it (`Environment.Loader`).

A variable is set only if it can be: neither its name nor its value holds a NUL, and the name is not empty and holds no equals
sign.
-/

namespace Keepalive

/-- The values of variables, and files. -/
structure Environment where
  values : List (String × String)
  files : Files
  deriving DecidableEq, Repr

namespace Environment

/-- A value by name among others, in place when the name is there already and else at the end. -/
def putValue (name value : String) : List (String × String) → List (String × String)
  | [] => [(name, value)]
  | (key, old) :: rest => if key = name then (key, value) :: rest else (key, old) :: putValue name value rest

/-- The value of a variable. -/
def get? (e : Environment) (name : String) : Option String := e.values.lookup name

/-- The environment with a variable set. -/
def set (e : Environment) (name value : String) : Environment := { e with values := putValue name value e.values }

/-- Why a variable cannot be set. -/
def refusal? (name value : String) : Option VariableFault :=
  if '\x00' ∈ name.toList ∨ '\x00' ∈ value.toList then some .nulCharacter
  else if '=' ∈ name.toList then some .badName
  else if name.isEmpty then some .emptyName
  else none

/-- Sets a variable, if it can be set. -/
def trySet (e : Environment) (name value : String) : Except VariableFault Environment :=
  match refusal? name value with
  | some fault => .error fault
  | none => .ok (e.set name value)

/-- Removes a variable, if it is there. -/
def unset (e : Environment) (name : String) : Environment :=
  { e with values := e.values.filter fun entry => entry.1 != name }

/-- What a path leads to. -/
def file? (e : Environment) (path : Path) : Option File := (e.files.find path).toOption

/-- Puts a file where a path leads. -/
def write (e : Environment) (path : Path) (file : File) : Except FileFault Environment :=
  (e.files.create path file).map fun files => { e with files }

/-- Sets variables in order, up to one that cannot be set. -/
def setAll (e : Environment) : List (String × String) → Except VariableFault Unit × Environment
  | [] => (.ok (), e)
  | (name, value) :: rest =>
    match e.trySet name value with
    | .error fault => (.error fault, e)
    | .ok e => e.setAll rest

/-- The environment of variables that can all be set, and files. -/
def ofValues (values : List (String × String)) (files : Files) : Except VariableFault Environment :=
  match setAll ⟨[], files⟩ values with
  | (.ok (), e) => .ok e
  | (.error fault, _) => .error fault

/-- What sets the values of an environment file in an environment. -/
abbrev Loader := Environment → File → Except LoadFault Unit × Environment

/-- Reads the environment file of a path, if one is given. -/
def prepare (e : Environment) (loader : Loader) : Option Path → Except LoadFault Unit × Environment
  | none => (.ok (), e)
  | some path =>
    match e.files.lookUp path with
    | .error _ => (.error .pathTooLong, e)
    | .ok none => (.error (.rejected (.noEnvFile path.text)), e)
    | .ok (some file) => loader e file

/-- The settings and the variables that hold them. -/
def settingNames : List (String × String) :=
  [("host_ip", "DRCOM_HOST_IP"), ("mac", "DRCOM_MAC"), ("type_id", "DRCOM_TYPE_ID"), ("uid_length", "DRCOM_UID_LENGTH"),
   ("server_ip", "DRCOM_SERVER_IP"), ("drcom_port", "DRCOM_PORT")]

/-- The settings that have a variable. -/
def settings (e : Environment) : Entries :=
  settingNames.filterMap fun (setting, variableName) => (e.get? variableName).map fun value => (setting, .text value)

/-- Loads the configuration that the variables hold. -/
def loadSettings [Config.Depths] (e : Environment) : Logged LoadFault Config :=
  let settings := e.settings
  if settings.isEmpty then throw (.rejected .noVariables) else Config.load (.table settings)

/-- Loads a configuration from the environment, after an environment file if one is given, and leaves the environment with the
values of that file. -/
def load [Config.Depths] (e : Environment) (loader : Loader) (path : Option Path) : Logged LoadFault Config × Environment :=
  let (ready, e) := e.prepare loader path
  (do Logged.ofExcept ready; e.loadSettings, e)

end Environment

end Keepalive
