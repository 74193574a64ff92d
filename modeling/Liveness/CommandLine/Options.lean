import Liveness.Text.Numeral
import Liveness.Text.Plain

/-! What can be given on a command line: commands, options, and the faults of both. -/
namespace Liveness.CommandLine
open Text

/-- The commands; those that have commands of their own do nothing by themselves. -/
inductive Command where
  | top
  | run
  | probe
  | config
  | show
  | path
  | completions
deriving DecidableEq, Repr

namespace Command

def name : Command → String
  | .top => "upbeat"
  | .run => "run"
  | .probe => "probe"
  | .config => "config"
  | .show => "show"
  | .path => "path"
  | .completions => "completions"

def below : Command → List Command
  | .top => [.run, .probe, .config, .completions]
  | .config => [.show, .path]
  | _ => []

def way : Command → List String
  | .top => [name .top]
  | .show => [name .top, name .config, name .show]
  | .path => [name .top, name .config, name .path]
  | c => [name .top, c.name]

def below? (c : Command) (name : String) : Option Command := c.below.find? (·.name == name)

/-- Commands with commands below them can also be asked for help on those. -/
def helpName : String := "help"

def knows (c : Command) (word : String) : Bool :=
  (c.below? word).isSome || (!c.below.isEmpty && word == helpName)

end Command

inductive LogFormat where
  | text
  | json
deriving DecidableEq, Repr

def LogFormat.ofName? : String → Option LogFormat
  | "text" => some .text
  | "json" => some .json
  | _ => none

inductive Shell where
  | bash
  | elvish
  | fish
  | powershell
  | zsh
deriving DecidableEq, Repr

def Shell.ofName? : String → Option Shell
  | "bash" => some .bash
  | "elvish" => some .elvish
  | "fish" => some .fish
  | "powershell" => some .powershell
  | "zsh" => some .zsh
  | _ => none

/-- The options that take a value. -/
inductive Parameter where
  | config
  | url
  | token
  | timeout
  | logFormat
deriving DecidableEq, Repr

namespace Parameter

def all : List Parameter := [.config, .url, .token, .timeout, .logFormat]

def name : Parameter → String
  | .config => "config"
  | .url => "url"
  | .token => "token"
  | .timeout => "timeout"
  | .logFormat => "log-format"

def label : Parameter → String
  | .config => "--config <CONFIG>"
  | .url => "--url <URL>"
  | .token => "--token <TOKEN>"
  | .timeout => "--timeout <TIMEOUT>"
  | .logFormat => "--log-format <LOG_FORMAT>"

end Parameter

/-- The options without a value. -/
inductive Flag where
  | insecure
  | verbose
  | help
  | version
deriving DecidableEq, Repr

namespace Flag

def all : List Flag := [.insecure, .verbose, .help, .version]

def name : Flag → String
  | .insecure => "insecure"
  | .verbose => "verbose"
  | .help => "help"
  | .version => "version"

def letter : Flag → Char
  | .insecure => 'k'
  | .verbose => 'v'
  | .help => 'h'
  | .version => 'V'

def label : Flag → String
  | .verbose => "--verbose..."
  | f => "--" ++ f.name

end Flag

def shellLabel : String := "<SHELL>"

inductive UsageFault where
  | unexpectedArgument (text : String)
  | unknownCommand (text : String)
  | valueMissing (label : String)
  | badValue (value label : String) (reason : Option String)
  | repeated (label : String)
  | unexpectedValue (value label : String)
  | commandMissing (way : List String)
  | argumentMissing (label : String)
deriving DecidableEq, Repr

/-- What is wrong, in words. What was given is shown as plain text. -/
def UsageFault.message : UsageFault → String
  | .unexpectedArgument text => "error: unexpected argument '" ++ plain text ++ "' found"
  | .unknownCommand text => "error: unrecognized subcommand '" ++ plain text ++ "'"
  | .valueMissing label =>
    "error: a value is required for '" ++ label ++ "' but none was supplied"
  | .badValue value label reason =>
    "error: invalid value '" ++ plain value ++ "' for '" ++ label ++ "'" ++
      ((reason.map (": " ++ ·)).getD "")
  | .repeated label => "error: the argument '" ++ label ++ "' cannot be used multiple times"
  | .unexpectedValue value label =>
    "error: unexpected value '" ++ plain value ++ "' for '" ++ label ++
      "' found; no more were expected"
  | .commandMissing way =>
    "error: '" ++ " ".intercalate way ++ "' requires a subcommand but one was not provided"
  | .argumentMissing label =>
    "error: the following required arguments were not provided:\n  " ++ label

end Liveness.CommandLine
