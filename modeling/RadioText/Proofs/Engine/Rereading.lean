import RadioText.Proofs.Engine.Listening

/-! Settings read again. Only a line that asks for it has them read again; the ones in effect are the
last that could be read, and those of the start before any could be. -/
namespace RadioText

namespace Reloads

def drop : Nat → Reloads → Reloads
  | 0, r => r
  | n + 1, r => drop n r.next.2

def first : Nat → Reloads → List (Except Text Settings)
  | 0, _ => []
  | n + 1, r => r.next.1 :: first n r.next.2

theorem first_add (n m : Nat) (r : Reloads) : r.first (n + m) = r.first n ++ (r.drop n).first m := by
  induction n generalizing r with
  | zero => rw [Nat.zero_add]; rfl
  | succ n ih =>
    rw [Nat.succ_add, first, ih]
    rfl

theorem drop_add (n m : Nat) (r : Reloads) : r.drop (n + m) = (r.drop n).drop m := by
  induction n generalizing r with
  | zero => rw [Nat.zero_add]; rfl
  | succ n ih =>
    rw [Nat.succ_add, drop, ih]
    rfl

end Reloads

def Settings.after (s : Settings) (results : List (Except Text Settings)) : Settings :=
  (results.filterMap Except.toOption).getLast?.getD s

theorem Settings.after_append (s : Settings) (results more : List (Except Text Settings)) :
    s.after (results ++ more) = (s.after results).after more := by
  simp [after, List.getLast?_append]

variable {τ : Type}

namespace Broadcast

structure Reads (b b' : Broadcast τ) (n : Nat) : Prop where
  reloads : b'.reloads = b.reloads.drop n
  reloadCount : b'.reloadCount = b.reloadCount + n
  settings : b'.engine.settings = b.engine.settings.after (b.reloads.first n)

theorem Reads.trans {b b' b'' : Broadcast τ} {n m : Nat} (h : b.Reads b' n)
    (h' : b'.Reads b'' m) : b.Reads b'' (n + m) where
  reloads := by rw [h'.reloads, h.reloads, Reloads.drop_add]
  reloadCount := by rw [h'.reloadCount, h.reloadCount, Nat.add_assoc]
  settings := by rw [h'.settings, h.settings, h.reloads, Reloads.first_add, Settings.after_append]

theorem reads_record (b : Broadcast τ) (now : Nat) {r : Step τ} (h : b.engine.Untouched r) :
    b.Reads (b.record now r) 0 :=
  ⟨rfl, rfl, h.settings⟩

end Broadcast

def Arrival.reads (a : Arrival) : Nat :=
  match a.flow? with
  | some (.reload _) => 1
  | some .proceed | some .exit | none => 0

variable [Transmitter τ]

namespace Engine

def reread (e : Engine τ) : Except Text Settings → Step τ
  | .error reason => (e, [.kept reason])
  | .ok settings => (e.reconfigure settings).1

theorem settings_reread (e : Engine τ) (result : Except Text Settings) :
    (e.reread result).1.settings = e.settings.after [result] := by
  cases result with
  | error reason => rfl
  | ok settings => exact e.settings_reconfigure settings

end Engine

namespace Broadcast

theorem reads_tick (b : Broadcast τ) (s : Service) : b.Reads (b.tick s) 0 :=
  ⟨rfl, rfl, (b.engine.untouched_tick s).settings⟩

theorem reads_turnTo (b : Broadcast τ) (time : Nat) : b.Reads (b.turnTo time) 0 :=
  turnTo_invariant (P := fun b' => b.Reads b' 0) (fun b' s _ h => h.trans (b'.reads_tick s))
    (fun _ h => ⟨h.reloads, h.reloadCount, h.settings⟩) ⟨rfl, rfl, rfl⟩

theorem reads_cycled (b : Broadcast τ) (now : Nat) (restart : Bool) :
    b.Reads (b.cycled now restart) 0 := by
  cases restart with
  | false => exact ⟨rfl, rfl, rfl⟩
  | true => exact b.reads_record now b.engine.untouched_cycleTransmitter

theorem reads_reload (b : Broadcast τ) (now : Nat) (restart : Bool) :
    b.Reads (b.reload now restart).1 1 := by
  have hread {r : Step τ}
      (hr : r.1.settings = b.engine.settings.after [b.reloads.next.1]) (timers : Services Timer) :
      b.Reads { b.read.record now r with timers } 1 :=
    ⟨rfl, rfl, hr⟩
  obtain ⟨reason, hresult, heq⟩ | ⟨settings, hresult, hok⟩ := b.reload_cases now restart
  · have hkept : b.engine.settings = b.engine.settings.after [b.reloads.next.1] := by
      rw [hresult]
      rfl
    rw [heq]
    exact (hread (r := (b.engine, [.kept reason])) hkept b.timers).trans
      (reads_cycled _ now restart)
  · have hsettings : (b.engine.reconfigure settings).1.1.settings =
        b.engine.settings.after [b.reloads.next.1] := by
      rw [Engine.settings_reconfigure, hresult]
      rfl
    obtain heq | ⟨timers, _, heq⟩ := hok
    · rw [heq]
      exact hread hsettings b.timers
    · rw [heq]
      exact (hread hsettings timers).trans (reads_cycled _ now restart)

theorem reads_receive (b : Broadcast τ) (a : Arrival) : b.Reads (b.receive a).1 a.reads := by
  have hticks := b.reads_turnTo a.time
  obtain ⟨hflow, fault, hreceive⟩ | ⟨t, flow, _, hflow, hreceive⟩ := b.receive_cases a
  · rw [hreceive, Arrival.reads, hflow]
    exact hticks
  · have hhandled := hticks.trans (reads_record _ a.time (Engine.untouched_handleLine _ t))
    rw [hreceive, Arrival.reads, hflow]
    cases flow with
    | proceed => exact hhandled
    | exit => exact hhandled
    | reload restart => exact hhandled.trans (reads_reload _ a.time restart)

/-- A run reads the settings again some number of times, and the last that could be read are in
effect at its end. -/
theorem exists_reads_handle (close : Nat) (b : Broadcast τ) (arrivals : List Arrival) :
    ∃ n, b.Reads (b.handle close arrivals).final n := by
  induction arrivals generalizing b with
  | nil => exact ⟨0, b.reads_turnTo close⟩
  | cons a rest ih =>
    have hreads := b.reads_receive a
    rw [handle]
    cases hreceive : b.receive a with
    | mk b' ending =>
      rw [hreceive] at hreads
      cases ending with
      | none =>
        obtain ⟨n, hrest⟩ := ih b'
        exact ⟨a.reads + n, hreads.trans hrest⟩
      | some ending => exact ⟨a.reads, hreads⟩

end Broadcast
end RadioText
