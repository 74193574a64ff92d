import Liveness.CommandLine.Options
import Liveness.Settings.Environment
import Liveness.Text.Filled

/-! What the command line says about itself: help pages, versions, and completions for shells. -/
namespace Liveness.CommandLine

def Command.about : Command → String
  | .top => "Liveness agent for headless networked devices"
  | .run => "Associate and probe until interrupted"
  | .probe => "Send a single probe and print the status line"
  | .config => "Inspect configuration"
  | .show => "Display the resolved configuration (secrets redacted)"
  | .path => "Print the config file path"
  | .completions => "Generate shell completions"

def helpAbout : String := "Print this message or the help of the given subcommand(s)"

/-- What is listed, what is said about it, and a remark in brackets. -/
structure Entry where
  label : String
  about : String
  remark : String
deriving DecidableEq, Repr

def Entry.text (e : Entry) : String := if e.remark = "" then e.about else e.about ++ " " ++ e.remark

def spaces (n : Nat) : String := String.ofList (List.replicate n ' ')

def padded (width : Nat) (s : String) : String := s ++ spaces (width - s.length)

/-- A text in lines of a width, all but the first indented. -/
def set (width indent : Nat) (s : String) : String :=
  ("\n" ++ spaces indent).intercalate ((Text.Filled.lines width s.toList).map String.ofList)

/-- The columns in front of a text that stands below its label. -/
def belowIndent : Nat := 10

/-- Entries with their labels in one column and their texts in another. Where the labels take more
than two fifths of the page and leave too little room for some text, texts stand below labels. -/
def listing (width : Nat) (entries : List Entry) : List String :=
  let column := (entries.map (·.label.length)).foldl max 0 + 4
  let isLong (e : Entry) : Bool :=
    width - column < Text.Filled.columns false (e.about ++ e.remark).toList
  if column ≤ width ∧ 2 * width < 5 * column ∧ entries.any isLong then
    entries.map fun e =>
      "  " ++ e.label ++ "\n" ++ spaces belowIndent ++
        set (width - belowIndent) belowIndent e.text
  else entries.map fun e =>
    padded column ("  " ++ e.label) ++ set (width - column) column e.text

def Command.usage (c : Command) : String :=
  "Usage: " ++ " ".intercalate c.way ++ " [OPTIONS]" ++
    (if c = .completions then " " ++ shellLabel else if c.below.isEmpty then "" else " <COMMAND>")

def Command.entries (c : Command) : List Entry :=
  c.below.map (fun b => ⟨b.name, b.about, ""⟩) ++ [⟨Command.helpName, helpAbout, ""⟩]

def shellEntry : Entry :=
  ⟨shellLabel, "Shell to generate completions for",
    "[possible values: bash, elvish, fish, powershell, zsh]"⟩

def Parameter.entry (p : Parameter) (about remark : String) : Entry :=
  ⟨"    " ++ p.label, about, remark⟩

def Flag.entry (f : Flag) (about : String) : Entry :=
  ⟨"-" ++ f.letter.toString ++ ", " ++ f.label, about, ""⟩

/-- The options. The variables that can give them are named, one with its text. -/
def optionEntries (config : String) : List Entry := [
  Parameter.config.entry "Config file (defaults to the platform config dir)"
    (Text.plain ("[env: UPBEAT_CONFIG=" ++ config ++ "]")),
  Parameter.url.entry "Monitor base URL (overrides config)" "",
  Parameter.token.entry "Authorization header value sent with every probe" "[env: UPBEAT_TOKEN]",
  Flag.insecure.entry "Accept any TLS certificate (required for https monitors)",
  Parameter.timeout.entry "Connect / read / write timeout in seconds" "",
  Flag.verbose.entry "Increase verbosity (-v, -vv, -vvv)",
  Parameter.logFormat.entry "Log line format" "[default: text] [possible values: text, json]",
  Flag.help.entry "Print help (see more with '--help')",
  Flag.version.entry "Print version"]

/-- The width of a page where no variable gives another. -/
def usualWidth : Nat := 100

def pageWidth (environment : Settings.Environment) : Nat :=
  let given := (environment.text? "COLUMNS").bind fun s =>
    (Text.readNumeral Text.max64 s.toList).toOption
  given.getD usualWidth

def Command.page (environment : Settings.Environment) (c : Command) : String :=
  let width := pageWidth environment
  let part (heading : String) (entries : List Entry) : List String :=
    "" :: heading :: listing width entries
  let lines := [set width 0 c.about, "", c.usage] ++
    (if c.below.isEmpty then [] else part "Commands:" c.entries) ++
    (if c = .completions then part "Arguments:" [shellEntry] else []) ++
    part "Options:" (optionEntries ((environment.text? "UPBEAT_CONFIG").getD ""))
  String.join (lines.map (· ++ "\n"))

def page (environment : Settings.Environment) (way : List String) : String :=
  match [Command.top, .run, .probe, .config, .show, .path, .completions].find? (·.way == way) with
  | some c => c.page environment
  | none => helpAbout ++ "\n\nUsage: " ++ " ".intercalate way ++ " [COMMAND]...\n"

def version : String := "0.1.0"

def versionLine (way : List String) : String := "-".intercalate way ++ " " ++ version ++ "\n"

def firstWords : String :=
  " ".intercalate (Command.top.below.map Command.name ++ [Command.helpName])

/-- A script that completes the first word of a command line. -/
def Shell.script : Shell → String
  | .bash => "complete -W \"" ++ firstWords ++ "\" upbeat\n"
  | .elvish =>
    "set edit:completion:arg-completer[upbeat] = \x7b|@words| put " ++ firstWords ++ " \x7d\n"
  | .fish => "complete -c upbeat -n __fish_use_subcommand -f -a '" ++ firstWords ++ "'\n"
  | .powershell =>
    "Register-ArgumentCompleter -Native -CommandName 'upbeat' -ScriptBlock \x7b " ++
      "-split '" ++ firstWords ++ "' \x7d\n"
  | .zsh => "#compdef upbeat\n_arguments '1:command:(" ++ firstWords ++ ")'\n"

end Liveness.CommandLine
