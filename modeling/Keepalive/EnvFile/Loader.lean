import Keepalive.EnvFile
import Keepalive.Environment

/-!
# Reading environment files

`EnvFile.loader` reads an environment file as a text in UTF-8 and sets its values, unless one variable of the environment turns
such files off. A directory has no values.
-/

namespace Keepalive.EnvFile

/-- A letter of which case makes no difference, as its small form. -/
def fold (c : Char) : Char := if c = 'ſ' then 's' else c.toLower

/-- The variable that turns environment files off. -/
def disablingName : String := "PYTHON_DOTENV_DISABLED"

/-- The values with which it does, in letters of either case. -/
def disabling : List String := ["1", "true", "t", "yes", "y"]

/-- Are environment files turned off? -/
def turnedOff (e : Environment) : Bool :=
  match e.get? disablingName with
  | some value => disabling.contains (String.ofList (value.toList.map fold))
  | none => false

/-- Sets the values of an environment file. -/
def loader : Environment.Loader := fun e file =>
  match file with
  | .directory => (.ok (), e)
  | .content octets =>
    if turnedOff e then (.ok (), e)
    else
      match Text.ofUtf8? octets with
      | none => (.error .undecodable, e)
      | some text =>
        let (done, e) := e.setAll (values e.get? text)
        (done.mapError .badVariable, e)

end Keepalive.EnvFile
