import RadioText.CommandLine.Folder
import RadioText.CommandLine.LogFilter
import RadioText.Config.Configuration
import RadioText.Engine.Broadcast

/-! A run of the engine from the command line: where its lines come from, and what it logs. The
transmitter only logs, so the log is all there is to see. -/
namespace RadioText.CommandLine

/-- The path that stands for standard input or output. -/
def standardStream : Text := ['-']

structure Session where
  path : Text
  configuration : Config.Configuration
  filter : LogFilter

namespace Session

def programPart : String := "dynrds"

def enginePart : String := "dynrds::rds::engine"

def transmitterPart : String := "dynrds::rds::transmitter"

def recordLine (r : Record) : LogLine :=
  ⟨.info, transmitterPart, r.message.toList, r.value?.toList⟩

/-- Entries as lines of the log. Every call that was carried out and shows has left a record. -/
def entryLines : List Entry → List Record → List LogLine
  | [], _ => []
  | .call (.rtSize _) _ :: entries, records => entryLines entries records
  | .call _ .done :: entries, r :: records => recordLine r :: entryLines entries records
  | e :: entries, records =>
    (e.log?.map fun (level, t) => ⟨level, enginePart, t, []⟩).toList ++ entryLines entries records

/-- What a broadcast has logged, as far as it is to be shown. -/
def lines (s : Session) (b : Broadcast Logger) : List LogLine :=
  (entryLines (b.entries.map (·.2)) b.engine.transmitter.records.reverse).filter s.filter.shows

/-- A broadcast with an empty log, and as before its first turn. -/
def emptied (b : Broadcast Logger) : Broadcast Logger :=
  let transmitter := { b.engine.transmitter with records := [] }
  { b with log := [], draws := .timersFirst, engine := { b.engine with transmitter } }

/-- The first state of an engine with this configuration, with timers that start at time `0`. -/
def start? (s : Session) : Option (Broadcast Logger) :=
  let settings := s.configuration.settings
  Broadcast.start? (Engine.ofSettings settings { rtSize := settings.rtSize }) ⟨[], .ok settings⟩

/-- Why a session that did not come to its end broke off. -/
inductive Break
  | unreadable (fault : Utf8.Fault)
  | unopened (e : FileError)
  | zeroPeriod

def Break.message : Break → Text
  | unreadable fault => unreadableMessage fault
  | unopened e => "failed to read commands: ".toList ++ e.message
  | zeroPeriod => "a timer has no period".toList

def breakOf? : Ending → Option Break
  | .exit => none
  | .inputClosed => none
  | .unreadable fault => some (.unreadable fault)
  | .zeroPeriod => some .zeroPeriod

/-- The line that says why a session broke off, if it is to be shown. -/
def breakLines (s : Session) (b : Break) : List LogLine :=
  [⟨.error, programPart, "engine stopped: ".toList ++ b.message, []⟩].filter s.filter.shows

/-- Run on an input that is all there from the start and does not grow. -/
def run (s : Session) (reload : Except Text Settings) (input : Except FileError Bytes) :
    Option Break × List LogLine :=
  match input, s.start? with
  | .error e, _ => (some (.unopened e), s.breakLines (.unopened e))
  | _, none => (some .zeroPeriod, s.breakLines .zeroPeriod)
  | .ok bytes, some first =>
    let first := { first with reloads := ⟨[], reload⟩ }
    let o := first.handle 0 (Feed.arrivals [⟨0, bytes⟩] 0)
    let break? := breakOf? o.ending
    (break?, s.lines o.final ++ break?.toList.flatMap s.breakLines)

end Session
end RadioText.CommandLine
