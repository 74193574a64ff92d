import Liveness.Path
import Liveness.Settings.Environment

/-! Where the settings file is. -/
namespace Liveness.Settings

/-- The usual place of the settings file. Another directory for settings can be named, unless no
home directory is known; an empty variable names none. -/
def usualFile (accountHome : Option String) (environment : Environment) : String :=
  let given := environment.text? "HOME"
  let directory := match given.filter (· ≠ "") <|> accountHome with
    | some home =>
      ((environment.text? "XDG_CONFIG_HOME").filter Path.isAbsolute).getD
        (Path.below home ".config")
    | none => Path.below (given.getD ".") ".config"
  Path.below (Path.below directory "upbeat") "config.toml"

def accountHome? (accounts number : String) : Option String :=
  (Text.splitAt (· == '\n') accounts.toList).findSome? fun line =>
    match (Text.splitAt (· == ':') line).map String.ofList with
    | [_, _, n, _, _, directory, _] => if n = number then some directory else none
    | _ => none

end Liveness.Settings
