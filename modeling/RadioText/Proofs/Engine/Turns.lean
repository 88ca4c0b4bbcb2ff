import RadioText.Proofs.Engine.Place

/-! Whose turn it is on air. A service shows its lines one after the other, and the first of them
again once it has started over; a service without lines shows its fallback. -/
namespace RadioText

namespace Engine

variable {τ : Type} [Transmitter τ]

structure AtTurn (s : Service) (e : Engine τ) (k : Nat) : Prop where
  styled : e.display.Styled
  fallback : (e.rotation s).fallback = (e.settings.services.get s).fallback
  place : (e.rotation s).AtTurn k

def turn (s : Service) (e : Engine τ) (k : Nat) : Text :=
  turnText (e.settings.services.get s).fallback (e.lines s) k

omit [Transmitter τ] in
theorem AtTurn.current {s : Service} {e : Engine τ} {k : Nat} (h : e.AtTurn s k) :
    (e.rotation s).current = e.turn s k := by
  rw [h.place.current, h.fallback]
  rfl

theorem AtTurn.startOver {s : Service} {e : Engine τ} {k : Nat} (h : e.AtTurn s k) {a : Action}
    (ha : e.StartsOver a) : (e.act a).1.AtTurn s 0 where
  styled := styled_act h.styled a
  fallback := fallback_act h.styled h.fallback a
  place := .first (position_act_of_startsOver h.styled ha s)

/-- How many turns of a service an action is: a tick of the service is one while the transmitter
is on, whether it takes the line or not. -/
def turnsOf (s : Service) (e : Engine τ) (a : Action) : Nat :=
  if a.ticks s ∧ e.isActive = true then 1 else 0

theorem AtTurn.act {s : Service} {e : Engine τ} {k : Nat} (h : e.AtTurn s k) {a : Action}
    (ha : ¬ e.StartsOver a) : (e.act a).1.AtTurn s (k + e.turnsOf s a) where
  styled := styled_act h.styled a
  fallback := fallback_act h.styled h.fallback a
  place := by
    have hplace := place_act h.styled ha s
    by_cases ht : a.ticks s ∧ e.isActive = true
    · rw [if_pos ht] at hplace
      rw [turnsOf, if_pos ht]
      exact h.place.advance.of_place hplace
    · rw [if_neg ht] at hplace
      rw [turnsOf, if_neg ht]
      exact h.place.of_place hplace

def turns (s : Service) (e : Engine τ) : List Action → Nat
  | [] => 0
  | a :: rest => e.turnsOf s a + turns s (e.act a).1 rest

def KeepsTurns (e : Engine τ) : List Action → Prop
  | [] => True
  | a :: rest => ¬ e.StartsOver a ∧ KeepsTurns (e.act a).1 rest

theorem AtTurn.run {s : Service} {e : Engine τ} {k : Nat} (h : e.AtTurn s k)
    {since : List Action} (hs : e.KeepsTurns since) :
    (e.run since).1.AtTurn s (k + e.turns s since) := by
  induction since generalizing e k with
  | nil => exact h
  | cons a since ih =>
    obtain ⟨ha, hs⟩ := hs
    rw [run_cons, turns, ← Nat.add_assoc]
    exact ih (h.act ha) hs

theorem AtTurn.exists_run {s : Service} {e : Engine τ} {k : Nat} (h : e.AtTurn s k)
    (actions : List Action) : ∃ k', (e.run actions).1.AtTurn s k' := by
  induction actions generalizing e k with
  | nil => exact ⟨k, h⟩
  | cons a actions ih =>
    rw [run_cons]
    by_cases ha : e.StartsOver a
    · exact ih (h.startOver ha)
    · exact ih (h.act ha)

def StartedOver (e : Engine τ) (before : List Action) : Prop :=
  before = [] ∨ ∃ earlier a, before = earlier ++ [a] ∧ (e.run earlier).1.StartsOver a

theorem AtTurn.startedOver {s : Service} {e : Engine τ} (h : e.AtTurn s 0) {before : List Action}
    (hb : e.StartedOver before) : (e.run before).1.AtTurn s 0 := by
  obtain rfl | ⟨earlier, a, rfl, ha⟩ := hb
  · exact h
  · obtain ⟨k, hk⟩ := h.exists_run earlier
    rw [run_concat, run_cons]
    exact hk.startOver ha

/-- A run splits where the services started over for the last time. -/
theorem exists_startedOver (e : Engine τ) (actions : List Action) :
    ∃ before since, actions = before ++ since ∧ e.StartedOver before ∧
      (e.run before).1.KeepsTurns since := by
  -- From the front: the first action counts only if nothing after it starts over.
  induction actions generalizing e with
  | nil => exact ⟨[], [], rfl, .inl rfl, trivial⟩
  | cons a actions ih =>
    obtain ⟨before, since, rfl, hb, hs⟩ := ih (e.act a).1
    obtain rfl | ⟨earlier, b, rfl, hb⟩ := hb
    · by_cases ha : e.StartsOver a
      · exact ⟨[a], since, rfl, .inr ⟨[], a, rfl, ha⟩, hs⟩
      · exact ⟨[], a :: since, rfl, .inl rfl, ha, hs⟩
    · refine ⟨a :: (earlier ++ [b]), since, by simp, .inr ⟨a :: earlier, b, rfl, ?_⟩, ?_⟩
      · rw [run_cons]
        exact hb
      · rw [run_cons]
        exact hs

theorem atTurn_ofSettings (settings : Settings) (transmitter : τ) (s : Service) :
    (ofSettings settings transmitter).1.AtTurn s 0 where
  styled := (snapshot_ofSettings settings transmitter).styled
  fallback := by cases s <;> rfl
  place := .first (by cases s <;> rfl)

inductive Bystander (s : Service) (e : Engine τ) : Action → Prop
  | otherTick {other : Service} (h : other ≠ s) : Bystander s e (.tick other)
  | describesTrack {t : Text} {c : Command} (hc : Command.read t = .ok c)
      (h : c.describesTrack = true) : Bystander s e (.line t)
  | mainPlaylist {t name : Text} (hc : Command.read t = .ok (.mainPlaylist name)) :
      Bystander s e (.line t)
  | rejected {t : Text} {err : CommandError} (hc : Command.read t = .error err) :
      Bystander s e (.line t)
  | failedStartup {a : Action} (h : .call .startup .inactive ∈ (e.act a).2) : Bystander s e a
  | alreadyActive {t : Text} (hc : Command.read t = .ok .init ∨ Command.read t = .ok .start)
      (h : e.isActive = true) : Bystander s e (.line t)
  | sameStyles {settings : Settings} (h : ∀ service, (settings.services.get service).style =
      (e.settings.services.get service).style) : Bystander s e (.reconfigure settings)

theorem act_alreadyActive {e : Engine τ} {t : Text}
    (hc : Command.read t = .ok .init ∨ Command.read t = .ok .start) (h : e.isActive = true) :
    e.act (.line t) = (e, []) := by
  obtain hc | hc := hc <;> simp [act, handleLine_ok hc, apply, startTransmitter_of_active h]

theorem Bystander.not_startsOver {s : Service} {e : Engine τ} {a : Action}
    (h : e.Bystander s a) : ¬ e.StartsOver a := by
  rintro (hr | hup)
  · cases h with
    | otherTick => cases hr
    | describesTrack hc h =>
      simp [Action.refreshes, hc, Command.refreshes_of_describesTrack h] at hr
    | mainPlaylist hc => simp [Action.refreshes, hc, Command.refreshes] at hr
    | rejected hc => simp [Action.refreshes, hc] at hr
    | failedStartup h => simp [(startup_mem_act h).1] at hr
    | alreadyActive hc =>
      obtain hc | hc := hc <;> simp [Action.refreshes, hc, Command.refreshes] at hr
    | sameStyles h =>
      have hps := h .ps
      have hrt := h .rt
      simp_all [Action.refreshes, Services.get]
  · cases h with
    | otherTick => exact e.startup_not_mem_tick _ _ hup
    | describesTrack hc h => simp [act_of_describesTrack hc h] at hup
    | mainPlaylist hc => simp [act, handleLine_ok hc, apply] at hup
    | @rejected _ err hc => cases err <;> simp [act, handleLine, hc] at hup
    | failedStartup h => cases (startup_mem_act h).2.2 _ hup
    | alreadyActive hc h => simp [act_alreadyActive hc h] at hup
    | sameStyles => exact e.startup_not_mem_reconfigure _ _ hup

theorem Bystander.not_turn {s : Service} {e : Engine τ} {a : Action} (h : e.Bystander s a) :
    a.ticks s = false := by
  cases h with
  | otherTick h => simpa [Action.ticks] using h
  | failedStartup h => exact (startup_mem_act h).2.1 s
  | _ => rfl

theorem Bystander.place {s : Service} {e : Engine τ} (hs : e.display.Styled) {a : Action}
    (h : e.Bystander s a) : ((e.act a).1.rotation s).place = (e.rotation s).place := by
  rw [place_act hs h.not_startsOver s, if_neg (by simp [h.not_turn])]

/-- After any run a tick of a service on air shows its lines in turn: `k` is how often it has ticked
on air since the lines were last refreshed or the transmitter last came up. Off air a tick does
nothing, and a bystander never moves the service. -/
theorem rotation_run (settings : Settings) (transmitter : τ) (actions : List Action)
    (s : Service) :
    let e₀ := (ofSettings settings transmitter).1
    let e := (e₀.run actions).1
    ∃ before since, actions = before ++ since ∧ e₀.StartedOver before ∧
      (e₀.run before).1.KeepsTurns since ∧
      (if e.isActive = true then
        let k := (e₀.run before).1.turns s since
        ∃ answer, (e.tick s).2 = [.call (.show s
          (turnText (e.settings.services.get s).fallback (e.lines s) k)) answer]
      else e.tick s = (e, [])) ∧
      ∀ a, e.Bystander s a → ((e.act a).1.rotation s).place = (e.rotation s).place := by
  intro e₀ e
  obtain ⟨before, since, rfl, hb, hs⟩ := e₀.exists_startedOver actions
  have hturn : e.AtTurn s ((e₀.run before).1.turns s since) := by
    have hrun := ((atTurn_ofSettings settings transmitter s).startedOver hb).run hs
    rw [Nat.zero_add] at hrun
    simpa only [e, run_concat] using hrun
  refine ⟨before, since, rfl, hb, hs, ?_, fun a ha => ha.place hturn.styled⟩
  split
  · rename_i hactive
    obtain ⟨answer, t, _, htick⟩ := tick_of_active hactive s
    refine ⟨answer, ?_⟩
    rw [htick, hturn.current]
    rfl
  · rename_i hinactive
    exact tick_of_inactive (by simpa using hinactive) s

end Engine
end RadioText