import RadioText.Engine
import RadioText.Engine.Feed

/-! The engine over time. Two timers tick from the start on, each at its own rate; between the ticks
the lines of the input are handled at the time they are complete. New rates start both timers
anew, and they tick at once. What is there at one time comes in an order that is drawn at random.
Times are milliseconds. -/
namespace RadioText

/-- A timer that ticks at `next`, and from then on whenever its period has passed. -/
structure Timer where
  next : Nat
  period : Nat
  period_pos : 0 < period

namespace Timer

/-- A timer that ticks at once; there is none without a period. -/
def start? (now period : Nat) : Option Timer :=
  if h : 0 < period then some ⟨now, period, h⟩ else none

def advance (t : Timer) : Timer := { t with next := t.next + t.period }

end Timer

def millisPerSecond : Nat := 1000

/-- The results of reading the settings again: some in order, then the same one ever after. -/
structure Reloads where
  results : List (Except Text Settings)
  later : Except Text Settings

namespace Reloads

def next (r : Reloads) : Except Text Settings × Reloads :=
  match r.results with
  | [] => (r.later, r)
  | result :: rest => (result, { r with results := rest })

end Reloads

/-- What the engine waits for: its input, or the tick of a timer. -/
inductive Branch
  | input
  | tick (s : Service)
deriving DecidableEq

/-- The branch to look at after another one. -/
def Branch.next : Branch → Branch
  | input => tick .ps
  | tick .ps => tick .rt
  | tick .rt => input

/-- The branch to look at first, turn by turn. It is drawn at random, so nothing is known of it. -/
abbrev Draws := Nat → Branch

namespace Draws

def timersFirst : Draws := fun _ => .tick .ps

def rest (d : Draws) : Draws := fun n => d (n + 1)

end Draws

/-- Why a run is over. -/
inductive Ending
  | exit
  | inputClosed
  /-- A line is not UTF-8. -/
  | unreadable (fault : Utf8.Fault)
  /-- A timer has no period. -/
  | zeroPeriod
deriving DecidableEq

/-- What an unreadable line is called in the log. -/
def unreadableMessage (fault : Utf8.Fault) : Text :=
  "failed to read commands: ".toList ++ fault.message

structure Broadcast (τ : Type) where
  engine : Engine τ
  timers : Services Timer
  reloads : Reloads
  /-- How often the settings were read again. -/
  reloadCount : Nat
  draws : Draws
  /-- What the engine did and when, last first. -/
  log : List (Nat × Entry)

namespace Broadcast

variable {τ : Type}

def timers? (now : Nat) (channels : Services Channel) : Option (Services Timer) := do
  let ps ← Timer.start? now (channels.ps.rate * millisPerSecond)
  let rt ← Timer.start? now (channels.rt.rate * millisPerSecond)
  return ⟨ps, rt⟩

/-- Continue with a step's engine, and log what the step did. -/
def record (b : Broadcast τ) (now : Nat) (s : Step τ) : Broadcast τ :=
  { b with engine := s.1, log := s.2.foldl (fun log entry => (now, entry) :: log) b.log }

/-- The rest of the turn is done; the next one has a draw of its own. -/
def turn (b : Broadcast τ) : Broadcast τ := { b with draws := b.draws.rest }

/-- When a branch is ready, if there is input at `time`. -/
def readyAt (time : Nat) (b : Broadcast τ) : Branch → Nat
  | .input => time
  | .tick s => (b.timers.get s).next

def soonest (time : Nat) (b : Broadcast τ) : Nat :=
  min time (min b.timers.ps.next b.timers.rt.next)

/-- The branch whose turn it is: the first that is ready, looking round from the one drawn. -/
def pick (time : Nat) (b : Broadcast τ) : Branch :=
  let first := b.draws 0
  if b.readyAt time first ≤ b.soonest time then first
  else if b.readyAt time first.next ≤ b.soonest time then first.next
  else first.next.next

theorem readyAt_pick (time : Nat) (b : Broadcast τ) :
    b.readyAt time (b.pick time) ≤ b.soonest time := by
  have hsome : b.readyAt time .input ≤ b.soonest time ∨
      b.readyAt time (.tick .ps) ≤ b.soonest time ∨ b.readyAt time (.tick .rt) ≤ b.soonest time := by
    simp only [soonest, readyAt, Services.get]
    omega
  unfold pick
  cases b.draws 0 with
  | input => grind [Branch.next]
  | tick s => cases s <;> grind [Branch.next]

theorem next_le_of_pick {time : Nat} {b : Broadcast τ} {s : Service} (h : b.pick time = .tick s) :
    (b.timers.get s).next ≤ time := by
  have hready := b.readyAt_pick time
  rw [h] at hready
  exact Nat.le_trans hready (Nat.min_le_left _ _)

variable [Transmitter τ]

/-- A timer ticks. -/
def tick (s : Service) (b : Broadcast τ) : Broadcast τ :=
  let now := (b.timers.get s).next
  let b := b.record now (b.engine.tick s)
  { b.turn with timers := b.timers.modify s Timer.advance }

/-- The ticks before the turn of an input that is there at a time. -/
def runTimers (time : Nat) (b : Broadcast τ) : Broadcast τ :=
  match _hpick : b.pick time with
  | .input => b
  | .tick s => runTimers time (b.tick s)
termination_by (time + 1 - b.timers.ps.next) + (time + 1 - b.timers.rt.next)
decreasing_by
  have hp := b.timers.ps.period_pos
  have hr := b.timers.rt.period_pos
  have hle := next_le_of_pick _hpick
  revert hle
  cases s <;>
    simp only [tick, turn, record, Services.modify, Services.get, Timer.advance] <;> omega

/-- Read the settings again and take them over, then cycle the transmitter if asked to. -/
def reload (b : Broadcast τ) (now : Nat) (restart : Bool) : Broadcast τ × Option Ending :=
  let (result, reloads) := b.reloads.next
  let b := { b with reloads, reloadCount := b.reloadCount + 1 }
  let cycle (b : Broadcast τ) := if restart then b.record now b.engine.cycleTransmitter else b
  match result with
  | .error reason => (cycle (b.record now (b.engine, [.kept reason])), none)
  | .ok settings =>
    let (step, ratesChanged) := b.engine.reconfigure settings
    let b := b.record now step
    if ratesChanged then
      match timers? now b.engine.channels with
      | some timers => (cycle { b with timers }, none)
      | none => (b, some .zeroPeriod)
    else (cycle b, none)

/-- The turn of an input that is there at a time, after the ticks before it. -/
def turnTo (time : Nat) (b : Broadcast τ) : Broadcast τ := (b.runTimers time).turn

/-- Handle a line when it is its turn. -/
def receive (b : Broadcast τ) (a : Arrival) : Broadcast τ × Option Ending :=
  let b := b.turnTo a.time
  match a.line with
  | .error fault => (b, some (.unreadable fault))
  | .ok line =>
    let (step, flow) := b.engine.handleLine line
    let b := b.record a.time step
    match flow with
    | .proceed => (b, none)
    | .exit => (b, some .exit)
    | .reload restart => b.reload a.time restart

/-- What a run ended with, and when. -/
structure Outcome (τ : Type) where
  ending : Ending
  time : Nat
  final : Broadcast τ

/-- Handle the lines in order, then the end of the input. -/
def handle (close : Nat) (b : Broadcast τ) : List Arrival → Outcome τ
  | [] => ⟨.inputClosed, close, b.turnTo close⟩
  | a :: rest =>
    match b.receive a with
    | (b, none) => handle close b rest
    | (b, some ending) => ⟨ending, a.time, b⟩

/-- An engine with its timers started at time `0`. -/
def start? (s : Step τ) (reloads : Reloads) (draws : Draws := .timersFirst) :
    Option (Broadcast τ) := do
  let timers ← timers? 0 s.1.channels
  return record ⟨s.1, timers, reloads, 0, draws, []⟩ 0 s

/-- Run an engine on the lines of an input. -/
def run (s : Step τ) (reloads : Reloads) (arrivals : List Arrival) (close : Nat)
    (draws : Draws := .timersFirst) : Option (Outcome τ) :=
  (start? s reloads draws).map fun b => b.handle close arrivals

/-- What the engine did and when, in order. -/
def entries (b : Broadcast τ) : List (Nat × Entry) := b.log.reverse

end Broadcast
end RadioText
