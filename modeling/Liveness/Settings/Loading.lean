import Liveness.Settings.Basic
import Liveness.Settings.Environment
import Liveness.Settings.Error
import Liveness.Text.Utf8
import Liveness.Toml.Document

/-! Loading settings: the environment over a file over the standard values. Values are read in the
order of their keys, and the first that does not fit is reported. -/
namespace Liveness.Settings

def Scalar.description : Scalar → String
  | .text s => "string " ++ Text.quoted s
  | .character c => "string " ++ Text.quoted c.toString
  | .signed n => "signed int `" ++ toString n ++ "`"
  | .unsigned n => "unsigned int `" ++ toString n ++ "`"
  | .real x => "float `" ++ x.text ++ "`"
  | .boolean b => "bool " ++ toString b

def Value.description : Value → String
  | .scalar _ s => s.description
  | .list .. => "sequence"
  | .table .. => "map"

def Value.refuse {α : Type} (v : Value) (path : List String) (expected : Shape) :
    Except BadValue α :=
  .error ⟨.mismatch v.description expected, path, v.origin⟩

def Value.text (path : List String) : Value → Except BadValue String
  | .scalar _ (.text s) => .ok s
  | .scalar _ (.character c) => .ok c.toString
  | v => v.refuse path .text

def Value.boolean (path : List String) : Value → Except BadValue Bool
  | .scalar _ (.boolean b) => .ok b
  | v => v.refuse path .boolean

def Value.natural (path : List String) : Value → Except BadValue UInt64
  | .scalar _ (.unsigned n) => .ok (UInt64.ofNat n)
  | .scalar o (.signed n) =>
    if n < 0 then .error ⟨.negative (Scalar.signed n).description, path, o⟩
    else .ok (UInt64.ofNat n.toNat)
  | v => v.refuse path .natural

def backendOfName (path : List String) (origin : Origin) (name : String) :
    Except BadValue Backend :=
  match [Backend.networkManager, .fixed].find? (·.name == name) with
  | some b => .ok b
  | none => .error ⟨.unknownBackend name, path, origin⟩

/-- A backend is named by a text, or by the first key of a table, which must name nothing more. A
single character names none. -/
def Value.backend (path : List String) : Value → Except BadValue Backend
  | .scalar o (.text name) => backendOfName path o name
  | .table o [] => (Value.table o []).refuse path .choice
  | .table _ ((key, v) :: _) => do
    let _ ← backendOfName (path ++ [key]) v.origin key
    v.refuse (path ++ [key]) .nothing
  | v => v.refuse path .backend

/-- A setting of a record: its name, whether a list may end before it, and how a value sets it. -/
structure Field (σ : Type) where
  name : String
  optional : Bool
  set : List String → Value → σ → Except BadValue σ

/-- The settings of a table; unknown keys are passed over. -/
def readTable {σ : Type} (fields : List (Field σ)) (path : List String) :
    Fields → σ → Except BadValue σ
  | [], s => .ok s
  | (key, v) :: rest, s =>
    match fields.find? (·.name == key) with
    | none => readTable fields path rest s
    | some field => field.set (path ++ [key]) v s >>= readTable fields path rest

/-- The settings of a list, in the order of the record; `index` counts those already read. The
error is the place of a setting that the list does not reach. -/
def readList {σ : Type} (path : List String) (short : Nat → BadValue) :
    (index : Nat) → List (Field σ) → List Value → σ → Except BadValue σ
  | _, [], _, s => .ok s
  | index, field :: fields, [], s =>
    if field.optional then readList path short (index + 1) fields [] s else .error (short index)
  | index, field :: fields, v :: vs, s =>
    field.set (path ++ [toString index]) v s >>= readList path short (index + 1) fields vs

def readRecord {σ : Type} (name : String) (fields : List (Field σ)) (path : List String) (v : Value)
    (s : σ) : Except BadValue σ :=
  match v with
  | .table _ entries => readTable fields path entries s
  | .list o items =>
    readList path (fun index => ⟨.tooShort index name fields.length, path, o⟩) 0 fields items s
  | v => v.refuse path (.record name)

def Wifi.fields : List (Field Wifi) := [
  ⟨"backend", true, fun p v w => v.backend p >>= fun x => .ok { w with backend := x }⟩,
  ⟨"ssid", true, fun p v w => v.text p >>= fun x => .ok { w with ssid := x }⟩,
  ⟨"psk", false, fun p v w => v.text p >>= fun x => .ok { w with secret := some x }⟩,
  ⟨"psk_env", false, fun p v w => v.text p >>= fun x => .ok { w with secretVariable := some x }⟩,
  ⟨"interface", false, fun p v w => v.text p >>= fun x => .ok { w with interface := some x }⟩]

def Monitor.fields : List (Field Monitor) := [
  ⟨"url", false, fun p v m => v.text p >>= fun x => .ok { m with url := some x }⟩,
  ⟨"path", true, fun p v m => v.text p >>= fun x => .ok { m with path := x }⟩,
  ⟨"method", true, fun p v m => v.text p >>= fun x => .ok { m with method := x }⟩,
  ⟨"token", false, fun p v m => v.text p >>= fun x => .ok { m with token := some x }⟩,
  ⟨"token_env", false, fun p v m => v.text p >>= fun x => .ok { m with tokenVariable := some x }⟩,
  ⟨"insecure", true, fun p v m => v.boolean p >>= fun x => .ok { m with insecure := x }⟩,
  ⟨"timeout", true, fun p v m => v.natural p >>= fun x => .ok { m with timeout := x }⟩]

def Timing.fields : List (Field Timing) := [
  ⟨"activation_error", true, fun p v t =>
    v.natural p >>= fun x => .ok { t with activationError := x }⟩,
  ⟨"association_failed", true, fun p v t =>
    v.natural p >>= fun x => .ok { t with associationFailed := x }⟩,
  ⟨"probe_failed", true, fun p v t => v.natural p >>= fun x => .ok { t with probeFailed := x }⟩,
  ⟨"probe_interval", true, fun p v t => v.natural p >>= fun x => .ok { t with probeInterval := x }⟩,
  ⟨"poll_interval", true, fun p v t => v.natural p >>= fun x => .ok { t with pollInterval := x }⟩]

def indicatorFields : List (Field (Option String)) := [
  ⟨"led", false, fun p v _ => v.text p >>= fun x => .ok (some x)⟩]

def fields : List (Field Settings) := [
  ⟨"wifi", true, fun p v s =>
    readRecord "Wifi" Wifi.fields p v s.wifi >>= fun x => .ok { s with wifi := x }⟩,
  ⟨"monitor", true, fun p v s =>
    readRecord "Monitor" Monitor.fields p v s.monitor >>= fun x => .ok { s with monitor := x }⟩,
  ⟨"timing", true, fun p v s =>
    readRecord "Timing" Timing.fields p v s.timing >>= fun x => .ok { s with timing := x }⟩,
  ⟨"indicator", true, fun p v s =>
    readRecord "IndicatorSection" indicatorFields p v s.led >>= fun x => .ok { s with led := x }⟩]

def ofValue (v : Value) : Except BadValue Settings :=
  readRecord "Config" fields [] v standard

/-- The layer of a file; a missing one gives nothing. -/
def fileLayer (content : Option (List UInt8)) : Except LoadFault Value :=
  match content with
  | none => .ok (.table .file [])
  | some bytes =>
    match Text.Utf8.decode? bytes with
    | none => .error .notUtf8
    | some text =>
      match Toml.read? text with
      | none => .error .notToml
      | some entries => .ok (.table .file (Fields.ofEntries entries))

/-- Loads settings from the file of a name, if there is one, and the environment. -/
def load (file : String) (content : Option (List UInt8)) (environment : Environment) :
    Except SettingsError Settings :=
  match fileLayer content with
  | .error fault => .error (.unreadable file fault)
  | .ok below =>
    match ofValue ((environment.layer).over below) with
    | .error b => .error (.unreadable file (.badValue b))
    | .ok s => .ok s

end Liveness.Settings
