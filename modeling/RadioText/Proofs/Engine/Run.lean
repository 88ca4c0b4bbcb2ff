import RadioText.Engine

/-! Runs of an engine. An `Action` is one thing that can be done to it from outside; a run is any
list of these, in any order and with any transmitter, so whatever calls the transmitter refuses. -/
namespace RadioText

inductive Action
  | line (t : Text)
  | tick (s : Service)
  | refresh
  | reconfigure (s : Settings)
  | cycle

variable {τ : Type} [Transmitter τ]

def Engine.act (e : Engine τ) : Action → Step τ
  | .line t => (e.handleLine t).1
  | .tick s => e.tick s
  | .refresh => (e.refresh, [])
  | .reconfigure s => (e.reconfigure s).1
  | .cycle => e.cycleTransmitter

theorem Engine.handleLine_ok {e : Engine τ} {t : Text} {c : Command}
    (h : Command.read t = .ok c) : e.handleLine t = e.apply c := by
  simp [handleLine, h]

/-- A line that is no command changes nothing. -/
theorem Engine.engine_handleLine_error {e : Engine τ} {t : Text} {err : CommandError}
    (h : Command.read t = .error err) : (e.handleLine t).1.1 = e := by
  cases err <;> simp [handleLine, h]

namespace Step

def run (s : Step τ) (actions : List Action) : Step τ :=
  actions.foldl (fun s a => s.andThen fun e => e.act a) s

theorem run_append (s : Step τ) (before since : List Action) :
    s.run (before ++ since) = (s.run before).run since :=
  List.foldl_append

theorem engine_run_concat (s : Step τ) (actions : List Action) (a : Action) :
    (s.run (actions ++ [a])).1 = ((s.run actions).1.act a).1 := by
  rw [run_append]
  rfl

end Step

namespace Engine

def run (e : Engine τ) (actions : List Action) : Step τ := Step.run (e, []) actions

@[simp] theorem run_nil (e : Engine τ) : e.run [] = (e, []) := rfl

end Engine

theorem Step.run_eq (s : Step τ) (actions : List Action) :
    s.run actions = ((s.1.run actions).1, s.2 ++ (s.1.run actions).2) := by
  induction actions generalizing s with
  | nil => simp [run]
  | cons a actions ih =>
    have hleft := ih (s.andThen fun e => e.act a)
    have hright := ih (andThen (s.1, []) fun e => e.act a)
    change (s.andThen fun e => e.act a).run actions =
      (((andThen (s.1, []) fun e => e.act a).run actions).1,
        s.2 ++ ((andThen (s.1, []) fun e => e.act a).run actions).2)
    rw [hleft, hright]
    simp [andThen]

namespace Engine

theorem run_cons (e : Engine τ) (a : Action) (actions : List Action) :
    e.run (a :: actions) =
      (((e.act a).1.run actions).1, (e.act a).2 ++ ((e.act a).1.run actions).2) :=
  Step.run_eq (e.act a) actions

theorem run_concat (e : Engine τ) (before since : List Action) :
    e.run (before ++ since) =
      (((e.run before).1.run since).1, (e.run before).2 ++ ((e.run before).1.run since).2) := by
  rw [run, Step.run_append, Step.run_eq]
  rfl

end Engine
end RadioText
