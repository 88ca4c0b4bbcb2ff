import RadioText.CommandLine.Session
import RadioText.CommandLine.Sources
import RadioText.Event
import RadioText.Inspection

/-! What a run of the program does: what it writes and where, and how it ends. -/
namespace RadioText.CommandLine

/-- Why a command fails. -/
inductive Failure
  | misuse (m : Misuse)
  | format (e : Inspection.SpecError)
  | payload (kind : PayloadKind) (f : Json.Fault)
  | configuration (e : Config.ConfigError)
  /-- A log filter with a piece that cannot be taken. -/
  | tornFilter
  | undelivered (path : Text) (e : FileError)

namespace Failure

def formatNames : Text := Text.join [',', ' '] (Inspection.Spec.available.map (·.name))

def faultText : Json.Fault → String
  | .ended => "the text ends too early"
  | .malformed => "no JSON"
  | .unfit => "a value does not fit"

def message : Failure → Text
  | misuse m => "error: ".toList ++ m.message
  | format e => "Error: ".toList ++ e.message ++ "\nAvailable formats: ".toList ++ formatNames
  | payload kind f =>
    "Invalid ".toList ++ kind.name.toList ++ " payload: ".toList ++ (faultText f).toList
  | configuration e => "Configuration error: ".toList ++ e.text
  | tornFilter => "the log filter cannot be cut up".toList
  | undelivered path e => "Failed to write to ".toList ++ path ++ ':' :: ' ' :: e.message

/-- The exit code: `2` for arguments that make no sense, `101` for a run that cannot go on. -/
def code : Failure → Nat
  | misuse _ => 2
  | tornFilter => 101
  | _ => 1

end Failure

/-- What is left to do once the arguments and the configuration are known. -/
inductive Job
  | print (t : Text)
  /-- Add a text to what is at a path. -/
  | deliver (path text : Text)
  | broadcast (s : Session)

/-- A line of output. -/
def line (t : Text) : Text := t ++ ['\n']

/-- The lines for one line of a style. -/
def framed (rtSize : Nat) (t : Text) : Option Frame → List Text
  | none => [t]
  | some .ps => (psScreens t).map fun screen => '[' :: screen ++ [']']
  | some .rt => ['[' :: Record.spellFrame (rtFrame t rtSize) ++ [']']]

def rendered (style : Text) (m : Metadata) (frame : Option Frame) (rtSize : Nat) : Text :=
  ((Template.ofStyle style).evaluate m).flatMap fun t => (framed rtSize t frame).flatMap line

def formatList : Text :=
  "Available formats:\n\n".toList
    ++ Inspection.Spec.available.flatMap fun s => line (' ' :: ' ' :: s.name)

/-- A style in a format, without the white space at its end. -/
def inspected (style format : Text) (m : Metadata) : Except Failure Text :=
  match Inspection.Spec.read format with
  | .ok s => .ok (line (Inspection.inspect style m s).trimEnd)
  | .error e => .error (.format e)

/-- The command lines of a payload. -/
def payloadLines (kind : PayloadKind) (payload : Text) : Except Failure (List Text) :=
  match kind with
  | .media => ((MediaEvent.read payload).map (·.lines)).mapError (.payload kind)
  | .playlist => ((PlaylistEvent.read payload).map (·.lines)).mapError (.payload kind)
  | .raw => .ok [payload]

/-- The first of some texts that is a filter. -/
def firstFilter : List Text → Except Failure LogFilter
  | [] => .ok (.upTo .info)
  | t :: ts =>
    match LogFilter.read t with
    | .ok f => .ok f
    | .error .malformed => firstFilter ts
    | .error .torn => .error .tornFilter

/-- The filter that the surroundings ask for, else the one of the configuration. -/
def logFilter (env : Environment) (c : Config.Configuration) : Except Failure LogFilter :=
  firstFilter (env.logRules.toList ++ [c.logLevel])

namespace Invocation

/-- The sources of the configuration, for a command that has one. -/
def sources? : Invocation → Option Sources
  | engine s | notify _ _ s => some s
  | _ => none

/-- What an invocation comes to. A payload is read before the configuration. -/
def job (env : Environment) (files : Files) : Invocation → Except Failure Job
  | render style m frame rtSize => .ok (.print (rendered style m frame rtSize))
  | inspect style format m => (inspected style format m).map .print
  | listFormats => .ok (.print formatList)
  | engine s => do
    let c ← (s.configuration env files).mapError .configuration
    return .broadcast ⟨s.fifo.getD c.fifoPath, c, ← logFilter env c⟩
  | notify kind payload s => do
    let lines ← payloadLines kind payload
    let c ← (s.configuration env files).mapError .configuration
    return .deliver (s.fifo.getD c.fifoPath) (written lines)

end Invocation

/-- The settings as they are when they are read again. -/
def reloaded (env : Environment) (files : Files) (s : Sources) : Except Text Settings :=
  ((s.configuration env files).map (·.settings)).mapError (·.text)

/-- What a run leaves behind. -/
structure Report where
  code : Nat := 0
  output : Text := []
  failure : Option Failure := none
  log : List LogLine := []
  folder : Folder

namespace Report

def ofFailure (folder : Folder) (f : Failure) : Report :=
  { code := f.code, failure := some f, folder }

/-- Carry a job out in a folder that nobody else changes. -/
def ofJob (folder : Folder) (input : Bytes) (reload : Except Text Settings) : Job → Report
  | .print t => { output := t, folder }
  | .deliver path t =>
    if path = standardStream then { output := t, folder }
    else match folder.append path (Utf8.encode t) with
      | .ok after => { output := if folder.leadsTo .output path then t else [], folder := after }
      | .error e => ofFailure folder (.undelivered path e)
  | .broadcast s =>
    let input := if s.path = standardStream then .ok input else folder.read input s.path
    let (break?, log) := s.run reload input
    { code := if break?.isSome then 1 else 0, log, folder }

end Report

/-- The whole program on a folder: its surroundings, its standard input and its arguments. If the
player's settings are read from standard input, nothing is left of it for anything else. -/
def run (env : Environment) (folder : Folder) (input : Bytes) (args : List Text) : Report :=
  match Request.read args with
  | .help c => { output := (helpText c).toList, folder }
  | .version => { output := versionText.toList, folder }
  | .misuse m => .ofFailure folder (.misuse m)
  | .invoke i =>
    match i.job env (folder.read input) with
    | .error f => .ofFailure folder f
    | .ok job =>
      let sources := i.sources?.getD {}
      let left := if folder.leadsTo .input (sources.pluginFile env) then [] else input
      .ofJob folder left (reloaded env (folder.read left) sources) job

end RadioText.CommandLine
