import RadioText.Proofs.Engine.Bounds
import RadioText.Proofs.Engine.Exchange

/-! The recorder and the logger side by side. They answer alike as long as both are active or
neither is, and the calls of an engine keep it so; the two are then parts of one transmitter that
answers as each of them does. Hence an engine does the same on both, and what the logger writes is
what the recorder has taken, cut to size. -/
namespace RadioText

structure Tandem where
  recorder : Recorder
  logger : Logger
  active : logger.active = recorder.active

namespace Tandem

theorem perform_logger (t : Tandem) (c : Call) :
    (t.logger.perform c).1 = (t.recorder.perform c).1 ∧
      (t.logger.perform c).2.active = (t.recorder.perform c).2.active := by
  cases c with
  | startup | shutdown => exact ⟨rfl, rfl⟩
  | rtSize n => exact ⟨rfl, t.active⟩
  | «show» s line =>
    cases hr : t.recorder.active <;> simp [Recorder.perform, Logger.perform, t.active, hr]

def perform (t : Tandem) (c : Call) : Answer × Tandem :=
  ((t.recorder.perform c).1,
    ⟨(t.recorder.perform c).2, (t.logger.perform c).2, (t.perform_logger c).2⟩)

instance : Transmitter Tandem := ⟨fun t => t.recorder.active, perform⟩

theorem answers_recorder : Transmitter.Answers recorder := ⟨fun _ => rfl, fun _ _ => rfl⟩

theorem answers_logger : Transmitter.Answers logger where
  isActive t := t.active
  perform t c := Prod.ext (t.perform_logger c).1 rfl

end Tandem

/-- The events of a log: the calls that were carried out, each with the buffer size that was given
last before it. A buffer size is no event of its own. -/
def events (size : Nat) : List Entry → List (Call × Nat)
  | [] => []
  | .call (.rtSize n) _ :: log => events n log
  | .call c .done :: log => (c, size) :: events size log
  | _ :: log => events size log

namespace Tandem

theorem events_of_leads {t after : Tandem} {log : List Entry} (h : Leads t log after) :
    after.recorder.calls = t.recorder.calls ++ (events t.logger.rtSize log).map Prod.fst ∧
    after.logger.records.reverse.map some = t.logger.records.reverse.map some ++
      (events t.logger.rtSize log).map fun x => (Entry.call x.1 .done).record? x.2 := by
  induction h with
  | nil => simp [events]
  | @call t t' after c a log hfits hperform _ ih =>
    obtain ⟨hcalls, hrecords⟩ := ih
    rw [hcalls, hrecords]
    change t.perform c = (a, t') at hperform
    cases hperform
    cases c with
    | startup | shutdown =>
      simp [events, Recorder.perform, Logger.perform, Recorder.calls, Entry.record?]
    | rtSize n => simp [events, Recorder.perform, Logger.perform]
    | «show» s line =>
      have hon : t.recorder.active = true := hfits
      cases s <;> simp [events, Recorder.perform, Logger.perform, Recorder.calls,
        Entry.record?, t.active, hon]
  | rejected _ _ ih | kept _ _ ih => exact ih

end Tandem

def Call.logged (size : Nat) : Call → Option (String × Option (String × Text))
  | .startup => some ("transmitter starting", none)
  | .shutdown => some ("transmitter stopping", none)
  | .show .ps line => some ("PS", some ("fragments", Quoted.quoteList (psScreens line)))
  | .show .rt line =>
    some ("RT", some ("fragment",
      (rtFrame line size).flatMap fun c => if c = '\r' then ['\\', 'r'] else [c]))
  | .rtSize _ => none

theorem Call.logged_eq (c : Call) (size : Nat) :
    ((Entry.call c .done).record? size).map (fun r => (r.message, r.value?)) = c.logged size := by
  cases c with
  | «show» s line => cases s <;> rfl
  | _ => rfl

/-- Two engines have done the same, one on a recorder and one on a logger: they made the same calls
and got the same answers, they differ in their transmitters only, and what the logger has written
since is what the recorder has taken since, each line cut to the buffer of its time. -/
structure Agree (r : Recorder) (l : Logger) (s : Step Recorder) (s' : Step Logger) : Prop where
  log : s'.2 = s.2
  isActive : s'.1.isActive = s.1.isActive
  engine : s'.1.map (fun _ => ()) = s.1.map fun _ => ()
  calls : s.1.transmitter.calls = r.calls ++ (events l.rtSize s.2).map Prod.fst
  records : s'.1.transmitter.records.reverse.map some = l.records.reverse.map some ++
    (events l.rtSize s.2).map fun x => (Entry.call x.1 .done).record? x.2
  shown : s'.1.transmitter.records.reverse.map (fun x => some (x.message, x.value?)) =
    l.records.reverse.map (fun x => some (x.message, x.value?)) ++
      (events l.rtSize s.2).map fun x => x.1.logged x.2

theorem Tandem.agree {t : Tandem} {s : Step Tandem} (h : Leads t s.2 s.1.transmitter) :
    Agree t.recorder t.logger (Step.map recorder s) (Step.map logger s) := by
  obtain ⟨hcalls, hrecords⟩ := events_of_leads h
  refine ⟨rfl, s.1.transmitter.active, rfl, hcalls, hrecords, ?_⟩
  have hshown := congrArg (List.map (Option.map fun x : Record => (x.message, x.value?))) hrecords
  simp only [List.map_append, List.map_map, Function.comp_def, Option.map_some,
    Call.logged_eq] at hshown
  exact hshown

/-- An engine does the same on a recorder as on a logger, if both are active or neither is:
whatever commands, ticks and settings come, in any order, and in a run over time on any draws. -/
theorem agree_run (r : Recorder) (l : Logger) (h : l.active = r.active) (settings : Settings) :
    let onRecorder := Engine.ofSettings settings r
    let onLogger := Engine.ofSettings settings l
    (∀ orders : List Order, Agree r l (onRecorder.obey orders) (onLogger.obey orders)) ∧
    ∀ reloads arrivals close draws,
      (Broadcast.run onLogger reloads arrivals close draws).map
          (Broadcast.Outcome.map fun _ => ()) =
        (Broadcast.run onRecorder reloads arrivals close draws).map
          (Broadcast.Outcome.map fun _ => ()) ∧
      ∀ o ∈ Broadcast.run onRecorder reloads arrivals close draws,
        ∀ o' ∈ Broadcast.run onLogger reloads arrivals close draws,
          Agree r l (o.final.engine, o.final.entries.map Prod.snd)
            (o'.final.engine, o'.final.entries.map Prod.snd) := by
  intro onRecorder onLogger
  -- Both runs are parts of one run on the two transmitters in tandem.
  let t : Tandem := ⟨r, l, h⟩
  let start := Engine.ofSettings settings t
  have hr : onRecorder = Step.map Tandem.recorder start :=
    Engine.ofSettings_map Tandem.answers_recorder settings t
  have hl : onLogger = Step.map Tandem.logger start :=
    Engine.ofSettings_map Tandem.answers_logger settings t
  have hleads : Leads t start.2 start.1.transmitter := Engine.leads_ofSettings settings t
  rw [hr, hl]
  refine ⟨fun orders => ?_, fun reloads arrivals close draws => ?_⟩
  · rw [Step.obey_map Tandem.answers_recorder, Step.obey_map Tandem.answers_logger]
    exact Tandem.agree (Step.leads_obey hleads orders)
  · rw [Broadcast.run_map Tandem.answers_recorder, Broadcast.run_map Tandem.answers_logger]
    cases ho : Broadcast.run start reloads arrivals close draws with
    | none => simp
    | some o =>
      have hled := Broadcast.leads_run hleads ho
      refine ⟨rfl, ?_⟩
      rintro _ ⟨⟩ _ ⟨⟩
      exact Tandem.agree (s := (o.final.engine, o.final.entries.map Prod.snd)) hled

/-- The buffer shrinks while a line is shown that it held before; the transmitter is then cycled. -/
theorem agree_run_resized :
    let r : Recorder := ⟨[.shutdown, .startup], false⟩
    let l : Logger := ⟨16, false, []⟩
    let settings (rtSize : Nat) : Settings :=
      ⟨true, ⟨⟨"Silent Night".toList, 4, []⟩, ⟨[], 8, "Silent\rNight".toList⟩⟩, rtSize, .fppdStart,
        .never⟩
    let orders : List Order := [.action (.tick .rt), .command .init, .action (.tick .ps),
      .action (.tick .rt), .action (.reconfigure (settings 9)), .action (.tick .rt),
      .action .cycle, .action (.line "EXIT".toList)]
    let onRecorder := (Engine.ofSettings (settings 32) r).obey orders
    let onLogger := (Engine.ofSettings (settings 32) l).obey orders
    l.active = r.active ∧ Agree r l onRecorder onLogger ∧
      onRecorder.1.transmitter.calls = [.startup, .shutdown, .startup,
        .show .ps "Silent Night".toList, .show .rt "Silent\rNight".toList,
        .show .rt "Silent\rNight".toList, .shutdown, .startup, .shutdown] ∧
      onLogger.1.transmitter.records.reverse = [.starting,
        .screens ["Silent N".toList, "ight    ".toList], .frame "Silent\rNight\r".toList,
        .frame "Silent\rNi".toList, .stopping, .starting, .stopping] := by
  intro r l settings orders onRecorder onLogger
  have hagree := (agree_run r l rfl (settings 32)).1 orders
  refine ⟨rfl, hagree, ?_, ?_⟩
  · dsimp only [onRecorder, r, settings, orders]
    decide +kernel
  · dsimp only [onLogger, l, settings, orders]
    decide +kernel

end RadioText
