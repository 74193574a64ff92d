import Liveness.CommandLine.Options
import Liveness.Settings.Environment
import Liveness.Text.Basic

/-! Reading a command line, word by word. Each command on the way to the last one takes options of
its own; what stands nearer to the last command counts. A value is checked once the next option
begins or the line ends. -/
namespace Liveness.CommandLine
open Text

structure Given where
  config : Option String
  url : Option String
  token : Option String
  timeout : Option UInt64
  logFormat : Option LogFormat
  insecure : Bool
  verbosity : Nat
  shell : Option Shell
deriving DecidableEq, Repr

/-- What has been read but not checked yet: a parameter that may still lack its value, or the
argument of the completions command. -/
inductive Pending where
  | nothing
  | parameter (p : Parameter) (value : Option String)
  | shell (text : String)
deriving DecidableEq, Repr

/-- One command on the way. -/
structure Level where
  command : Command
  given : Given
  pending : Pending
deriving DecidableEq, Repr

/-- Why a command line asks for nothing to be done: it asks for help or for the version, it names
no command, or it is wrong. -/
inductive Stop where
  | help (way : List String)
  | version (way : List String)
  | incomplete (command : Command)
  | wrong (fault : UsageFault)
deriving DecidableEq, Repr

namespace Given

def nothing : Given := ⟨none, none, none, none, none, false, 0, none⟩

/-- What is given nearer to the last command, and otherwise what is given before. -/
def orElse (near far : Given) : Given :=
  ⟨near.config <|> far.config, near.url <|> far.url, near.token <|> far.token,
    near.timeout <|> far.timeout, near.logFormat <|> far.logFormat, near.insecure || far.insecure,
    if near.verbosity = 0 then far.verbosity else near.verbosity, near.shell <|> far.shell⟩

def has (g : Given) : Parameter → Bool
  | .config => g.config.isSome
  | .url => g.url.isSome
  | .token => g.token.isSome
  | .timeout => g.timeout.isSome
  | .logFormat => g.logFormat.isSome

def take (g : Given) (p : Parameter) (value : String) : Except UsageFault Given :=
  match p with
  | .config =>
    if value = "" then .error (.valueMissing p.label) else .ok { g with config := some value }
  | .url => .ok { g with url := some value }
  | .token => .ok { g with token := some value }
  | .timeout =>
    match readNumeral max64 value.toList with
    | .ok n => .ok { g with timeout := some (UInt64.ofNat n) }
    | .error e => .error (.badValue value p.label (some e.message))
  | .logFormat =>
    match LogFormat.ofName? value with
    | some f => .ok { g with logFormat := some f }
    | none =>
      .error (if value = "" then .valueMissing p.label else .badValue value p.label none)

/-- Takes in a parameter, which must not be given twice. -/
def add (g : Given) (p : Parameter) (value : String) : Except UsageFault Given :=
  if g.has p then .error (.repeated p.label) else g.take p value

def addShell (g : Given) (text : String) : Except UsageFault Given :=
  match Shell.ofName? text with
  | some shell => .ok { g with shell := some shell }
  | none =>
    .error (if text = "" then .valueMissing shellLabel else .badValue text shellLabel none)

end Given

namespace Level

def start (c : Command) : Level := ⟨c, .nothing, .nothing⟩

/-- Checks what is pending. -/
def resolve (l : Level) : Except UsageFault Level :=
  match l.pending with
  | .nothing => .ok l
  | .parameter p none => .error (.valueMissing p.label)
  | .parameter p (some value) =>
    (l.given.add p value).map fun g => { l with given := g, pending := .nothing }
  | .shell text => (l.given.addShell text).map fun g => { l with given := g, pending := .nothing }

def waits (l : Level) : Bool :=
  match l.pending with
  | .parameter _ none => true
  | _ => false

/-- The completions command has its argument, checked or not. -/
def hasShell (l : Level) : Bool :=
  match l.pending with
  | .shell _ => true
  | _ => l.given.shell.isSome

end Level

/-- How far a command line has been read: the command reached, those before it, the nearest first,
and whether only arguments may follow. -/
structure Scan where
  level : Level
  outer : List Level
  trailing : Bool
deriving DecidableEq, Repr

namespace Scan

/-- Checks what is pending, and goes on at the present command. -/
def resolved (s : Scan) (next : Level → Except Stop Level) : Except Stop Scan :=
  match s.level.resolve with
  | .error fault => .error (.wrong fault)
  | .ok l => (next l).map fun l => { s with level := l }

def flag (s : Scan) (f : Flag) : Except Stop Scan :=
  s.resolved fun l =>
    match f with
    | .help => .error (.help l.command.way)
    | .version => .error (.version l.command.way)
    | .verbose => .ok { l with given := { l.given with verbosity := l.given.verbosity + 1 } }
    | .insecure =>
      if l.given.insecure then .error (.wrong (.repeated f.label))
      else .ok { l with given := { l.given with insecure := true } }

def parameter (s : Scan) (p : Parameter) (value : Option String) : Except Stop Scan :=
  s.resolved fun l =>
    match value with
    | none => .ok { l with pending := .parameter p none }
    | some v =>
      match l.given.add p v with
      | .ok g => .ok { l with given := g }
      | .error fault => .error (.wrong fault)

/-- A word that begins with two hyphens; an equals sign in it attaches a value. -/
def long (s : Scan) (text : List Char) : Except Stop Scan :=
  let (name, value) := match cut? ['='] text with
    | some (name, value) => (String.ofList name, some (String.ofList value))
    | none => (String.ofList text, none)
  match Parameter.all.find? (·.name == name), Flag.all.find? (·.name == name) with
  | some p, _ => s.parameter p value
  | none, some f =>
    match value with
    | none => s.flag f
    | some v => .error (.wrong (.unexpectedValue v f.label))
  | none, none => .error (.wrong (.unexpectedArgument ("--" ++ name)))

/-- One letter behind a single hyphen. -/
def letter (s : Scan) (c : Char) : Except Stop Scan :=
  match Flag.all.find? (·.letter == c) with
  | some f => s.flag f
  | none => .error (.wrong (.unexpectedArgument (String.ofList ['-', c])))

/-- A word that is no option: the argument of the completions command, or one too many. -/
def argument (s : Scan) (word : String) : Except Stop Scan :=
  let c := s.level.command
  if c = .completions ∧ !s.level.hasShell then
    s.resolved fun l => .ok { l with pending := .shell word }
  else if c.below.isEmpty ∨ (s.trailing ∧ c.knows word) then
    .error (.wrong (.unexpectedArgument word))
  else .error (.wrong (.unknownCommand word))

def enter (s : Scan) (c : Command) : Scan :=
  { s with level := .start c, outer := s.level :: s.outer }

/-- One more word other than the name of a command. -/
def word (s : Scan) (w : String) : Except Stop Scan :=
  if s.trailing then s.argument w
  else match w.toList with
    | ['-', '-'] => .ok { s with trailing := true }
    | '-' :: '-' :: text => s.long text
    | '-' :: c :: cs => (c :: cs).foldlM letter s
    | _ =>
      match s.level.pending with
      | .parameter p none =>
        .ok { s with level := { s.level with pending := .parameter p (some w) } }
      | _ => s.argument w

end Scan

def readHelp : Option Command → List String → Stop
  | none, [] => .help (Command.top.way ++ [Command.helpName])
  | some c, [] => .help c.way
  | none, w :: _ => .wrong (.unknownCommand w)
  | some c, w :: ws =>
    match c.below? w with
    | some below => readHelp (some below) ws
    | none => if c.knows w then readHelp none ws else .wrong (.unknownCommand w)

def readWords : Scan → List String → Except Stop Scan
  | s, [] => .ok s
  | s, w :: ws =>
    if s.trailing || s.level.waits || !s.level.command.knows w then
      match s.word w with
      | .ok s => readWords s ws
      | .error stop => .error stop
    else match s.level.command.below? w with
      | some c => readWords (s.enter c) ws
      | none => .error (readHelp (some s.level.command) ws)

structure Invocation where
  command : Command
  given : Given
deriving DecidableEq, Repr

/-- The variables that stand in for options. -/
def configVariable : String := "UPBEAT_CONFIG"
@[inherit_doc configVariable] def tokenVariable : String := "UPBEAT_TOKEN"

def ofVariables (environment : Settings.Environment) : Given :=
  { Given.nothing with
    config := environment.text? configVariable
    token := environment.text? tokenVariable }

/-- Checks the end of what one command was given. An empty variable is no file name. -/
def Level.finish (environment : Settings.Environment) (l : Level) : Except Stop Given :=
  match l.resolve with
  | .error fault => .error (.wrong fault)
  | .ok l =>
    if l.given.config.isNone ∧ (ofVariables environment).config = some "" then
      .error (.wrong (.valueMissing Parameter.config.label))
    else .ok l.given

/-- The last command must do something, and must have its argument. -/
def checkLast (environment : Settings.Environment) (c : Command) (g : Given) : Except Stop Unit :=
  if !c.below.isEmpty then
    .error (if g = .nothing ∧ ofVariables environment = .nothing then .incomplete c
      else .wrong (.commandMissing c.way))
  else if c = .completions ∧ g.shell.isNone then .error (.wrong (.argumentMissing shellLabel))
  else .ok ()

/-- Reads a command line, the program's own name left out. -/
def read (environment : Settings.Environment) (words : List String) : Except Stop Invocation := do
  let s ← readWords ⟨.start .top, [], false⟩ words
  let last ← s.level.finish environment
  checkLast environment s.level.command last
  let given ← s.outer.foldlM (fun g l => (l.finish environment).map g.orElse) last
  return ⟨s.level.command, given.orElse (ofVariables environment)⟩

end Liveness.CommandLine
