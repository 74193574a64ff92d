import Liveness.Agent.Error
import Liveness.Settings.Value
import Liveness.Text.Quoted

/-! What can go wrong with settings: while they are loaded, shown, or turned into what the agent
needs. -/
namespace Liveness.Settings

inductive Shape where
  | text
  | natural
  | boolean
  | backend
  | choice
  | nothing
  | record (name : String)
deriving DecidableEq, Repr

def Shape.name : Shape → String
  | .text => "a string"
  | .natural => "u64"
  | .boolean => "a boolean"
  | .backend => "enum WifiBackend"
  | .choice => "enum"
  | .nothing => "unit"
  | .record name => "struct " ++ name

inductive ValueFault where
  | mismatch (found : String) (expected : Shape)
  | negative (found : String)
  | tooShort (length : Nat) (record : String) (size : Nat)
  | unknownBackend (name : String)
deriving DecidableEq, Repr

def ValueFault.message : ValueFault → String
  | .mismatch found expected => "invalid type: found " ++ found ++ ", expected " ++ expected.name
  | .negative found => "invalid value " ++ found ++ ", expected " ++ Shape.natural.name
  | .tooShort length record size =>
    "invalid length " ++ toString length ++ ", expected " ++ (Shape.record record).name ++
      " with " ++ toString size ++ (if size = 1 then " element" else " elements")
  | .unknownBackend name =>
    "unknown variant: found `" ++ name ++ "`, expected ``networkmanager` or `static``"

/-- A value that is no setting, by the path of its keys and its layer. -/
structure BadValue where
  fault : ValueFault
  path : List String
  origin : Origin
deriving DecidableEq, Repr

def Origin.keyText (path : List String) : Origin → String
  | .file => ".".intercalate ("default" :: path)
  | .environment =>
    ".".intercalate (path.map fun key => String.ofList (key.toList.map Char.toUpper))

def Origin.source (file : String) : Origin → String
  | .file => file ++ " TOML file"
  | .environment => "`UPBEAT_` environment variable(s)"

inductive LoadFault where
  | notUtf8
  | notToml
  | badValue (b : BadValue)
deriving DecidableEq, Repr

def LoadFault.message (file : String) : LoadFault → String
  | .notUtf8 => "stream did not contain valid UTF-8\n in " ++ Origin.file.source file
  | .notToml => "TOML parse error"
  | .badValue b =>
    b.fault.message ++ " for key " ++ Text.quoted (b.origin.keyText b.path) ++ " in " ++
      b.origin.source file

inductive SettingFault where
  | urlMissing
  | methodUnknown (given : String)
  | stated (field reason : String)
deriving DecidableEq, Repr

def SettingFault.message : SettingFault → String
  | .urlMissing => "invalid monitor.url: not set"
  | .methodUnknown given =>
    "invalid monitor.method: expected GET, HEAD, POST or PUT, got '" ++ given ++ "'"
  | .stated field reason => "invalid " ++ field ++ ": " ++ reason

end Settings

inductive SettingsError where
  | setting (fault : Settings.SettingFault)
  | variableMissing (field name : String)
  | notWritable
  | unreadable (file : String) (fault : Settings.LoadFault)
  | agent (e : AgentError)
deriving DecidableEq, Repr

def SettingsError.message : SettingsError → String
  | .setting fault => fault.message
  | .variableMissing field name =>
    field ++ " names environment variable '" ++ name ++ "', which is not set"
  | .notWritable => "failed to serialize config: out-of-range value for u64 type"
  | .unreadable file fault => "config loading failed: " ++ fault.message file
  | .agent e => e.message

end Liveness
