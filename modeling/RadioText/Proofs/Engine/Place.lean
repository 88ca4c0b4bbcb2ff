import RadioText.Proofs.Engine.Calls
import RadioText.Proofs.Engine.Snapshot

/-! Where the services stand in their lines. Both start over when they are refreshed or when the
transmitter comes up; a service moves on by its own ticks on air; nothing else moves it. What it
falls back to is always what the settings say. -/
namespace RadioText

theorem Command.refreshes_of_describesTrack {c : Command} (h : c.describesTrack = true) :
    c.refreshes = false := by
  cases c with
  | title | artist | album | genre | trackNumber => rfl
  | _ => cases h

def Action.ticks (s : Service) : Action → Bool
  | .tick s' => s' = s
  | _ => false

namespace Engine

variable {τ : Type}

def Keeps (s : Service) (e : Engine τ) (r : Step τ) : Prop :=
  (r.1.rotation s).place =
    if .call .startup .done ∈ r.2 then ((e.rotation s).lines, 0) else (e.rotation s).place

theorem Keeps.of_place {s : Service} {e : Engine τ} {r : Step τ}
    (hr : (r.1.rotation s).place = (e.rotation s).place) (h : .call .startup .done ∉ r.2) :
    e.Keeps s r := by
  rw [Keeps, if_neg h, hr]

theorem Keeps.of_channels {s : Service} {e : Engine τ} {r : Step τ}
    (hr : r.1.channels = e.channels) (h : .call .startup .done ∉ r.2) : e.Keeps s r := by
  refine .of_place ?_ h
  rw [rotation, hr, rotation]

theorem Keeps.none (s : Service) (e : Engine τ) : e.Keeps s (e, []) :=
  .of_channels rfl (by simp)

variable [Transmitter τ]

theorem keeps_startTransmitter (s : Service) (e : Engine τ) : e.Keeps s e.startTransmitter := by
  obtain ⟨_, h⟩ | ⟨_, _, a, t, _, h⟩ := e.startTransmitter_cases
  · rw [h]
    exact .none s e
  · rw [h]
    cases a with
    | done => cases s <;> simp [Keeps, rotation, Services.map, Channel.restart, Services.get,
        Rotation.place, Rotation.restart]
    | inactive => exact .of_channels rfl (by simp)

theorem channels_stopTransmitter (e : Engine τ) : e.stopTransmitter.1.channels = e.channels := by
  unfold stopTransmitter
  split <;> rfl

theorem startup_not_mem_stopTransmitter (e : Engine τ) (a : Answer) :
    .call .startup a ∉ e.stopTransmitter.2 := by
  obtain ⟨_, h⟩ | ⟨_, _, _, _, h⟩ := e.stopTransmitter_cases <;> simp [h]

theorem keeps_stopTransmitter (s : Service) (e : Engine τ) : e.Keeps s e.stopTransmitter :=
  .of_channels e.channels_stopTransmitter (e.startup_not_mem_stopTransmitter .done)

theorem keeps_cycleTransmitter (s : Service) (e : Engine τ) : e.Keeps s e.cycleTransmitter := by
  have hstop := e.startup_not_mem_stopTransmitter .done
  have hrotation : e.stopTransmitter.1.rotation s = e.rotation s := by
    rw [rotation, channels_stopTransmitter, rotation]
  unfold cycleTransmitter Step.andThen
  simp only
  split
  · have hstart := e.stopTransmitter.1.keeps_startTransmitter s
    rw [Keeps, hrotation] at hstart
    simp only [Keeps, hstart, List.mem_append, hstop, false_or]
  · rw [List.append_nil]
    exact e.keeps_stopTransmitter s

theorem keeps_apply (s : Service) (e : Engine τ) {c : Command} (h : c.refreshes = false) :
    e.Keeps s (e.apply c).1 := by
  cases c with
  | init | start =>
    rw [apply]
    split
    · exact e.keeps_startTransmitter s
    · exact .none s e
  | stop | trackLength | playlistPosition | playlistCount => cases h
  | exit => exact e.keeps_stopTransmitter s
  | reset | update | title | artist | album | genre | trackNumber | mainPlaylist =>
    exact .of_channels rfl (by simp [apply])

theorem place_adopted {e : Engine τ} {settings : Settings} (h : e.restyles settings = false)
    (s : Service) : ((e.adopted settings).rotation s).place = (e.rotation s).place := by
  cases s <;> simp [adopted, h, rotation, Services.get, Channel.reconfigure, Rotation.place,
    Rotation.withFallback]

theorem position_adopted {e : Engine τ} {settings : Settings} (h : e.restyles settings = true)
    (s : Service) : ((e.adopted settings).rotation s).position = 0 := by
  cases s <;> simp [adopted, h] <;> rfl

theorem channels_reconfigure (e : Engine τ) (settings : Settings) :
    (e.reconfigure settings).1.1.channels = (e.adopted settings).channels := by
  obtain ⟨_, h⟩ := e.reconfigure_eq_adopted settings
  rw [h]

theorem startup_not_mem_reconfigure (e : Engine τ) (settings : Settings) (a : Answer) :
    .call .startup a ∉ (e.reconfigure settings).1.2 := by
  rw [reconfigure_eq, Step.andThen]
  simp only
  split
  · simp [startup_not_mem_stopTransmitter]
  · simp

theorem rotation_tick (e : Engine τ) (s s' : Service) :
    (e.tick s').1.rotation s =
      if s' = s ∧ e.isActive = true then (e.rotation s).advance else e.rotation s := by
  cases h : e.isActive with
  | false => simp [tick_of_inactive h]
  | true =>
    obtain ⟨a, t, _, htick⟩ := tick_of_active h s'
    rw [htick]
    cases s <;> cases s' <;> simp [rotation, Services.modify, Services.get, Channel.advance]

theorem startup_not_mem_tick (e : Engine τ) (s : Service) (a : Answer) :
    .call .startup a ∉ (e.tick s).2 := by
  cases h : e.isActive with
  | false => simp [tick_of_inactive h]
  | true =>
    obtain ⟨_, _, _, htick⟩ := tick_of_active h s
    simp [htick]

/-- Both services show the first of their lines next: they have been refreshed, or the transmitter
has come up. -/
def StartsOver (e : Engine τ) (a : Action) : Prop :=
  a.refreshes e.settings = true ∨ .call .startup .done ∈ (e.act a).2

theorem keeps_act {e : Engine τ} (h : e.display.Styled) {a : Action}
    (hr : a.refreshes e.settings = false) (ht : ∀ s, a ≠ .tick s) (s : Service) :
    e.Keeps s (e.act a) := by
  cases a with
  | line t =>
    cases hc : Command.read t with
    | ok c =>
      rw [act, handleLine_ok hc]
      exact e.keeps_apply s (by simpa [Action.refreshes, hc] using hr)
    | error err =>
      refine .of_channels ?_ ?_
      · rw [act, engine_handleLine_error hc]
      · cases err <;> simp [act, handleLine, hc]
  | tick s' => exact absurd rfl (ht s')
  | refresh => cases hr
  | reconfigure settings =>
    refine .of_place ?_ (e.startup_not_mem_reconfigure settings .done)
    rw [act, rotation, channels_reconfigure]
    exact place_adopted ((restyles_eq h settings).trans hr) s
  | cycle => exact e.keeps_cycleTransmitter s

theorem position_act_of_refreshes {e : Engine τ} (h : e.display.Styled) {a : Action}
    (hr : a.refreshes e.settings = true) (s : Service) :
    ((e.act a).1.rotation s).position = 0 := by
  cases a with
  | line t =>
    cases hc : Command.read t with
    | ok c =>
      have hcr : c.refreshes = true := by simpa [Action.refreshes, hc] using hr
      rw [act, handleLine_ok hc]
      cases c with
      | stop =>
        rw [apply]
        simp only
        split
        · rw [rotation, channels_stopTransmitter]
          cases s <;> rfl
        · cases s <;> rfl
      | trackLength | playlistPosition | playlistCount => cases s <;> rfl
      | _ => cases hcr
    | error err => simp [Action.refreshes, hc] at hr
  | tick | cycle => cases hr
  | refresh => cases s <;> rfl
  | reconfigure settings =>
    rw [act, rotation, channels_reconfigure]
    exact position_adopted ((restyles_eq h settings).trans hr) s

theorem position_act_of_startsOver {e : Engine τ} (h : e.display.Styled) {a : Action}
    (ha : e.StartsOver a) (s : Service) : ((e.act a).1.rotation s).position = 0 := by
  cases hr : a.refreshes e.settings with
  | true => exact position_act_of_refreshes h hr s
  | false =>
    have hup : .call .startup .done ∈ (e.act a).2 := by simpa [StartsOver, hr] using ha
    have ht : ∀ s', a ≠ .tick s' := by
      rintro s' rfl
      exact e.startup_not_mem_tick s' .done hup
    have hkeeps := keeps_act h hr ht s
    rw [Keeps, if_pos hup] at hkeeps
    exact congrArg Prod.snd hkeeps

theorem place_act {e : Engine τ} (h : e.display.Styled) {a : Action} (ha : ¬ e.StartsOver a)
    (s : Service) :
    ((e.act a).1.rotation s).place =
      (if a.ticks s ∧ e.isActive = true then (e.rotation s).advance else e.rotation s).place := by
  obtain ⟨hr, hup⟩ := not_or.1 ha
  -- Only a tick can move a service that does not start over.
  by_cases ht : ∀ s', a ≠ .tick s'
  · have hkeeps := keeps_act h (by simpa using hr) ht s
    have hticks : a.ticks s = false := by
      cases a with
      | tick s' => exact absurd rfl (ht s')
      | _ => rfl
    rw [Keeps, if_neg hup] at hkeeps
    simpa [hticks] using hkeeps
  · obtain ⟨s', rfl⟩ : ∃ s', a = .tick s' := by simpa using ht
    rw [act, rotation_tick]
    simp [Action.ticks]

theorem fallback_startTransmitter (e : Engine τ) (s : Service) :
    (e.startTransmitter.1.rotation s).fallback = (e.rotation s).fallback := by
  obtain ⟨_, h⟩ | ⟨_, _, a, t, _, h⟩ := e.startTransmitter_cases
  · rw [h]
  · rw [h]
    cases s <;> cases a <;> rfl

theorem fallback_stopTransmitter (e : Engine τ) (s : Service) :
    (e.stopTransmitter.1.rotation s).fallback = (e.rotation s).fallback := by
  rw [rotation, channels_stopTransmitter, rotation]

theorem fallback_cycleTransmitter (e : Engine τ) (s : Service) :
    (e.cycleTransmitter.1.rotation s).fallback = (e.rotation s).fallback := by
  rw [← e.fallback_stopTransmitter s]
  unfold cycleTransmitter Step.andThen
  simp only
  split
  · exact fallback_startTransmitter _ s
  · rfl

theorem fallback_apply (e : Engine τ) (c : Command) (s : Service) :
    ((e.apply c).1.1.rotation s).fallback = (e.rotation s).fallback := by
  cases c with
  | init | start =>
    rw [apply]
    split
    · exact e.fallback_startTransmitter s
    · rfl
  | stop =>
    rw [apply]
    simp only
    split
    · rw [fallback_stopTransmitter]
      cases s <;> rfl
    · cases s <;> rfl
  | exit => exact e.fallback_stopTransmitter s
  | trackLength | playlistPosition | playlistCount => cases s <;> rfl
  | _ => rfl

theorem fallback_adopted (e : Engine τ) (settings : Settings) (s : Service) :
    ((e.adopted settings).rotation s).fallback = (settings.services.get s).fallback := by
  unfold adopted
  split <;> cases s <;> rfl

theorem settings_act {e : Engine τ} (h : e.display.Styled) (a : Action) :
    (e.act a).1.settings = (e.prepared a).settings := by
  change (e.act a).1.display.settings = _
  rw [display_act h]
  split <;> rfl

theorem fallback_act {e : Engine τ} (h : e.display.Styled) {s : Service}
    (hs : (e.rotation s).fallback = (e.settings.services.get s).fallback) (a : Action) :
    ((e.act a).1.rotation s).fallback = ((e.act a).1.settings.services.get s).fallback := by
  rw [settings_act h]
  cases a with
  | line t =>
    refine Eq.trans ?_ hs
    cases hc : Command.read t with
    | ok c =>
      rw [act, handleLine_ok hc]
      exact e.fallback_apply c s
    | error err => rw [act, engine_handleLine_error hc]
  | tick s' =>
    refine Eq.trans ?_ hs
    rw [act, rotation_tick]
    split
    · unfold Rotation.advance
      split <;> rfl
    · rfl
  | refresh =>
    refine Eq.trans ?_ hs
    cases s <;> rfl
  | reconfigure settings =>
    rw [act, rotation, channels_reconfigure]
    exact e.fallback_adopted settings s
  | cycle => exact (e.fallback_cycleTransmitter s).trans hs

theorem startup_unique_startTransmitter {e : Engine τ} {a b : Answer}
    (ha : .call .startup a ∈ e.startTransmitter.2) (hb : .call .startup b ∈ e.startTransmitter.2) :
    a = b := by
  obtain ⟨_, h⟩ | ⟨_, _, answer, t, _, h⟩ := e.startTransmitter_cases
  · simp [h] at ha
  · simp only [h, List.mem_singleton, Entry.call.injEq, true_and] at ha hb
    rw [ha, hb]

theorem startup_unique_cycleTransmitter {e : Engine τ} {a b : Answer}
    (ha : .call .startup a ∈ e.cycleTransmitter.2) (hb : .call .startup b ∈ e.cycleTransmitter.2) :
    a = b := by
  unfold cycleTransmitter Step.andThen at ha hb
  simp only [List.mem_append, startup_not_mem_stopTransmitter, false_or] at ha hb
  split at ha
  · rename_i hwanted
    rw [if_pos hwanted] at hb
    exact startup_unique_startTransmitter ha hb
  · simp at ha

/-- An action asks for at most one startup, and one that does so neither refreshes nor ticks. -/
theorem startup_mem_act {e : Engine τ} {a : Action} {answer : Answer}
    (h : .call .startup answer ∈ (e.act a).2) :
    a.refreshes e.settings = false ∧ (∀ s, a.ticks s = false) ∧
      ∀ other, .call .startup other ∈ (e.act a).2 → other = answer := by
  cases a with
  | line t =>
    cases hc : Command.read t with
    | ok c =>
      simp only [act, handleLine_ok hc] at h ⊢
      cases c with
      | init | start =>
        refine ⟨by simp [Action.refreshes, hc, Command.refreshes], fun _ => rfl, fun other ho => ?_⟩
        rw [apply] at h ho
        split at h
        · rename_i hmode
          rw [if_pos hmode] at ho
          exact startup_unique_startTransmitter ho h
        · simp at h
      | stop =>
        rw [apply] at h
        simp only at h
        split at h
        · exact absurd h (startup_not_mem_stopTransmitter _ _)
        · simp at h
      | exit => exact absurd h (startup_not_mem_stopTransmitter _ _)
      | _ => simp [apply] at h
    | error err => cases err <;> simp [act, handleLine, hc] at h
  | tick s => exact absurd h (e.startup_not_mem_tick s answer)
  | refresh => simp [act] at h
  | reconfigure settings => exact absurd h (e.startup_not_mem_reconfigure settings answer)
  | cycle => exact ⟨rfl, fun _ => rfl, fun _ ho => startup_unique_cycleTransmitter ho h⟩

theorem apply_of_describesTrack {c : Command} (h : c.describesTrack = true) (e : Engine τ) :
    e.apply c = ((e.withMetadata (c.revise e.metadata), []), .proceed) := by
  cases c with
  | title | artist | album | genre | trackNumber => rfl
  | _ => cases h

theorem act_of_describesTrack {e : Engine τ} {t : Text} {c : Command}
    (hc : Command.read t = .ok c) (h : c.describesTrack = true) :
    e.act (.line t) = (e.withMetadata (c.revise e.metadata), []) := by
  rw [act, handleLine_ok hc, apply_of_describesTrack h]

theorem startTransmitter_of_active {e : Engine τ} (h : e.isActive = true) :
    e.startTransmitter = (e, []) := by
  simp [startTransmitter, h]

end Engine
end RadioText
