import RadioText.Proofs.Engine.Coherence
import RadioText.Proofs.Engine.OnAir

/-! A disabled engine stays off air. A startup is asked for only while the settings enable it, and
settings that disable an engine take its transmitter down; so nothing is shown from then on until
other settings enable it and the transmitter is brought up again. -/
namespace RadioText

/-- What switches a transmitter on and off: a refused startup does not bring it on air, a shutdown
that is carried out takes it off, and the buffer size does neither. -/
structure Transmitter.Switches (τ : Type) [Transmitter τ] : Prop where
  startup : ∀ t : τ, (Transmitter.perform t .startup).1 = .inactive →
    Transmitter.isActive (Transmitter.perform t .startup).2 = Transmitter.isActive t
  shutdown : ∀ t : τ, (Transmitter.perform t .shutdown).1 = .done →
    Transmitter.isActive (Transmitter.perform t .shutdown).2 = false
  rtSize : ∀ (t : τ) (n : Nat),
    Transmitter.isActive (Transmitter.perform t (.rtSize n)).2 = Transmitter.isActive t

theorem switches_recorder : Transmitter.Switches Recorder where
  startup _ h := by cases h
  shutdown _ _ := rfl
  rtSize _ _ := rfl

theorem switches_logger : Transmitter.Switches Logger where
  startup _ h := by cases h
  shutdown _ _ := rfl
  rtSize _ _ := rfl

inductive Action.SwitchesOn : Action → Prop
  | init {t : Text} (hc : Command.read t = .ok .init) : SwitchesOn (.line t)
  | start {t : Text} (hc : Command.read t = .ok .start) : SwitchesOn (.line t)
  | cycle : SwitchesOn .cycle

variable {τ : Type} [Transmitter τ]

theorem switches_flaky (h : Transmitter.Switches τ) : Transmitter.Switches (Flaky τ) where
  startup f hrefused := by
    change Transmitter.isActive (f.perform .startup).2.inner = Transmitter.isActive f.inner
    change (f.perform .startup).1 = .inactive at hrefused
    unfold Flaky.perform at hrefused ⊢
    cases hf : f.refused 0 with
    | true => rfl
    | false => exact h.startup f.inner (by simpa [hf] using hrefused)
  shutdown f hdone := by
    change Transmitter.isActive (f.perform .shutdown).2.inner = false
    change (f.perform .shutdown).1 = .done at hdone
    unfold Flaky.perform at hdone ⊢
    cases hf : f.refused 0 with
    | true => simp [hf] at hdone
    | false => exact h.shutdown f.inner (by simpa [hf] using hdone)
  rtSize f n := by
    change Transmitter.isActive (f.perform (.rtSize n)).2.inner = Transmitter.isActive f.inner
    unfold Flaky.perform
    cases f.refused 0 with
    | true => rfl
    | false => exact h.rtSize f.inner n

/-- A transmitter off air that comes on air, or is given a line, has been started up before. -/
theorem Leads.startup_mem (hswitches : Transmitter.Switches τ) {t after : τ} {log : List Entry}
    (h : Leads t log after) (hoff : Transmitter.isActive t = false)
    (hon : Transmitter.isActive after = true ∨
      ∃ s line answer, .call (.show s line) answer ∈ log) :
    .call .startup .done ∈ log := by
  induction h with
  | nil => simp [hoff] at hon
  | @call t t' after c answer log hfits hperform _ ih =>
    -- Off air only a startup or a buffer size can be next.
    have hlater (hne : ∀ s line, c ≠ .show s line) (hoff' : Transmitter.isActive t' = false) :
        .call .startup .done ∈ .call c answer :: log := by
      refine List.mem_cons_of_mem _ (ih hoff' (hon.imp_right ?_))
      rintro ⟨s, line, a, hmem⟩
      obtain heq | hmem := List.mem_cons.1 hmem
      · cases heq
        exact absurd rfl (hne s line)
      · exact ⟨s, line, a, hmem⟩
    cases c with
    | startup =>
      cases answer with
      | done => exact List.mem_cons_self
      | inactive =>
        have hkept := hswitches.startup t (congrArg Prod.fst hperform)
        rw [hperform] at hkept
        exact hlater (by simp) (hkept.trans hoff)
    | rtSize n =>
      have hkept := hswitches.rtSize t n
      rw [hperform] at hkept
      exact hlater (by simp) (hkept.trans hoff)
    | shutdown | «show» => simp [Call.fits, hoff] at hfits
  | rejected err _ ih | kept reason _ ih =>
    exact List.mem_cons_of_mem _ (ih hoff (by simpa using hon))

namespace Engine

/-- What a run did, one of its actions did. -/
theorem exists_act_of_mem_run {e : Engine τ} {actions : List Action} {entry : Entry}
    (h : entry ∈ (e.run actions).2) : ∃ before a after, actions = before ++ a :: after ∧
      entry ∈ ((e.run before).1.act a).2 := by
  induction actions generalizing e with
  | nil => cases h
  | cons a actions ih =>
    rw [run_cons] at h
    obtain h | h := List.mem_append.1 h
    · exact ⟨[], a, actions, rfl, h⟩
    · obtain ⟨before, b, after, rfl, hb⟩ := ih h
      exact ⟨a :: before, b, after, rfl, by rwa [run_cons]⟩

theorem untouched_act {e : Engine τ} {a : Action} (h : ∀ s, a ≠ .reconfigure s) :
    e.Untouched (e.act a) := by
  cases a with
  | line t => exact e.untouched_handleLine t
  | tick s => exact e.untouched_tick s
  | refresh => exact e.untouched_refresh
  | reconfigure s => exact absurd rfl (h s)
  | cycle => exact e.untouched_cycleTransmitter

theorem enabled_of_startup_mem_startTransmitter {e : Engine τ} {answer : Answer}
    (h : .call .startup answer ∈ e.startTransmitter.2) : e.settings.enabled = true := by
  obtain ⟨_, hstart⟩ | ⟨henabled, _⟩ := e.startTransmitter_cases
  · simp [hstart] at h
  · exact henabled

theorem enabled_of_startup_mem_cycleTransmitter {e : Engine τ} {answer : Answer}
    (h : .call .startup answer ∈ e.cycleTransmitter.2) : e.settings.enabled = true := by
  unfold cycleTransmitter Step.andThen at h
  simp only [List.mem_append, startup_not_mem_stopTransmitter, false_or] at h
  split at h
  · rw [← e.untouched_stopTransmitter.settings]
    exact enabled_of_startup_mem_startTransmitter h
  · simp at h

/-- A startup is asked for only by three kinds of actions, and only of an enabled engine. -/
theorem enabled_of_startup_mem {e : Engine τ} {a : Action} {answer : Answer}
    (h : .call .startup answer ∈ (e.act a).2) : e.settings.enabled = true ∧ a.SwitchesOn := by
  cases a with
  | line t =>
    cases hc : Command.read t with
    | ok c =>
      rw [act, handleLine_ok hc] at h
      cases c with
      | init =>
        rw [apply] at h
        split at h
        · exact ⟨enabled_of_startup_mem_startTransmitter h, .init hc⟩
        · simp at h
      | start =>
        rw [apply] at h
        split at h
        · exact ⟨enabled_of_startup_mem_startTransmitter h, .start hc⟩
        · simp at h
      | stop =>
        rw [apply] at h
        simp only at h
        split at h
        · exact absurd h (startup_not_mem_stopTransmitter _ _)
        · simp at h
      | exit => exact absurd h (startup_not_mem_stopTransmitter _ _)
      | _ => simp [apply] at h
    | error err => cases err <;> simp [act, handleLine, hc] at h
  | tick s => exact absurd h (e.startup_not_mem_tick s answer)
  | refresh => simp [act] at h
  | reconfigure s => exact absurd h (e.startup_not_mem_reconfigure s answer)
  | cycle => exact ⟨enabled_of_startup_mem_cycleTransmitter h, .cycle⟩

def Standby (e : Engine τ) : Prop := e.settings.enabled = false → e.isActive = false

def ShutsDown (log : List Entry) : Prop := ∀ answer, .call .shutdown answer ∈ log → answer = .done

theorem Standby.reconfigure (hswitches : Transmitter.Switches τ) {e : Engine τ} (h : e.Standby)
    {s : Settings} (hdown : ShutsDown (e.reconfigure s).1.2) :
    (e.reconfigure s).1.1.Standby := by
  intro hs
  rw [settings_reconfigure] at hs
  cases henabled : e.settings.enabled with
  | false =>
    by_contra hon
    exact e.startup_not_mem_reconfigure s .done
      ((e.leads_reconfigure s).startup_mem hswitches (h henabled)
        (.inl (eq_true_of_ne_false hon)))
  | true =>
    rw [reconfigure_eq, Step.andThen] at hdown ⊢
    simp only [henabled, hs, Bool.not_false, Bool.and_self, if_true] at hdown ⊢
    obtain ⟨hoff, hstop⟩ | ⟨_, answer, t, hperform, hstop⟩ := (e.adopted s).stopTransmitter_cases
    · rw [hstop]
      exact hoff
    · have hdone : answer = .done := hdown answer (by simp [hstop])
      have hoff := hswitches.shutdown (e.adopted s).transmitter
        ((congrArg Prod.fst hperform).trans hdone)
      rw [hperform] at hoff
      rw [hstop]
      exact hoff

theorem Standby.act (hswitches : Transmitter.Switches τ) {e : Engine τ} (h : e.Standby)
    {a : Action} (hdown : ShutsDown (e.act a).2) : (e.act a).1.Standby := by
  by_cases ha : ∃ s, a = .reconfigure s
  · obtain ⟨s, rfl⟩ := ha
    exact h.reconfigure hswitches hdown
  · intro hdisabled
    have hkept := (e.untouched_act fun s hs => ha ⟨s, hs⟩).settings
    rw [hkept] at hdisabled
    by_contra hon
    have hup := (e.leads_act a).startup_mem hswitches (h hdisabled)
      (.inl (eq_true_of_ne_false hon))
    simp [(enabled_of_startup_mem hup).1] at hdisabled

theorem Standby.run (hswitches : Transmitter.Switches τ) {e : Engine τ} (h : e.Standby)
    {actions : List Action} (hdown : ShutsDown (e.run actions).2) :
    (e.run actions).1.Standby := by
  induction actions generalizing e with
  | nil => exact h
  | cons a actions ih =>
    rw [run_cons] at hdown ⊢
    exact ih (h.act hswitches fun answer ha => hdown answer (List.mem_append_left _ ha))
      fun answer ha => hdown answer (List.mem_append_right _ ha)

theorem standby_ofSettings (hswitches : Transmitter.Switches τ) (s : Settings) {t : τ}
    (hoff : Transmitter.isActive t = false) : (ofSettings s t).1.Standby :=
  fun _ => (hswitches.rtSize t s.rtSize).trans hoff

/-- A disabled engine is enabled only by other settings. -/
theorem exists_reconfigure_of_enabled {e : Engine τ} (h : e.settings.enabled = false)
    {since : List Action} (henabled : (e.run since).1.settings.enabled = true) :
    ∃ first new middle, since = first ++ .reconfigure new :: middle ∧ new.enabled = true := by
  induction since using List.reverseRecOn with
  | nil => simp [h] at henabled
  | append_singleton since a ih =>
    rw [run_concat, run_cons, run_nil] at henabled
    cases hbefore : (e.run since).1.settings.enabled with
    | true =>
      obtain ⟨first, new, middle, rfl, hnew⟩ := ih hbefore
      exact ⟨first, new, middle ++ [a], by simp, hnew⟩
    | false =>
      by_cases ha : ∃ s, a = .reconfigure s
      · obtain ⟨s, rfl⟩ := ha
        rw [act, settings_reconfigure] at henabled
        exact ⟨since, s, [], rfl, henabled⟩
      · rw [((e.run since).1.untouched_act fun s hs => ha ⟨s, hs⟩).settings, hbefore] at henabled
        cases henabled

/-- A run in which other settings enable the engine, and later a startup is carried out. -/
def Revived (e : Engine τ) (since : List Action) : Prop :=
  ∃ first new middle up last,
    since = first ++ .reconfigure new :: (middle ++ up :: last) ∧ new.enabled = true ∧
      up.SwitchesOn ∧
      .call .startup .done ∈ ((e.run (first ++ .reconfigure new :: middle)).1.act up).2

theorem revived_of_startup_mem {e : Engine τ} (h : e.settings.enabled = false)
    {since : List Action} (hup : .call .startup .done ∈ (e.run since).2) : e.Revived since := by
  obtain ⟨before, up, last, rfl, hdone⟩ := exists_act_of_mem_run hup
  obtain ⟨henabled, hswitches⟩ := enabled_of_startup_mem hdone
  obtain ⟨first, new, middle, rfl, hnew⟩ := exists_reconfigure_of_enabled h henabled
  exact ⟨first, new, middle, up, last, by simp, hnew, hswitches, hdone⟩

/-- Whatever is done to an engine and whatever calls are refused, no startup is asked for while the
settings disable it, and none while other settings are taken over. If the transmitter starts off air
and no shutdown is refused, then it is off air whenever the settings disable the engine, and from
then on no line is shown before other settings enable it and a later startup is carried out. -/
theorem offAir_run (settings : Settings) (t : τ) (actions : List Action) :
    let e := (ofSettings settings t).1
    (∀ before a after answer, actions = before ++ a :: after →
      .call .startup answer ∈ ((e.run before).1.act a).2 →
      (e.run before).1.settings.enabled = true ∧ ∀ new, a ≠ .reconfigure new) ∧
    (Transmitter.Switches τ → Transmitter.isActive t = false → ShutsDown (e.run actions).2 →
      ∀ before since after, actions = before ++ since ++ after →
        (e.run before).1.settings.enabled = false →
        (e.run before).1.isActive = false ∧
        ∀ s line answer, .call (.show s line) answer ∈ ((e.run before).1.run since).2 →
          (e.run before).1.Revived since) := by
  intro e
  refine ⟨fun before a after answer _ hup => ⟨(enabled_of_startup_mem hup).1, ?_⟩, ?_⟩
  · rintro new rfl
    exact startup_not_mem_reconfigure _ new answer hup
  intro hswitches hoff hdown before since after hsplit hdisabled
  have hstandby : (e.run before).1.Standby := by
    refine (standby_ofSettings hswitches settings hoff).run hswitches fun answer ha => ?_
    refine hdown answer ?_
    rw [hsplit, List.append_assoc, run_concat]
    exact List.mem_append_left _ ha
  refine ⟨hstandby hdisabled, fun s line answer hshow => ?_⟩
  have hleads : Leads (e.run before).1.transmitter ((e.run before).1.run since).2
      ((e.run before).1.run since).1.transmitter :=
    Step.leads_run (s := ((e.run before).1, [])) (.nil _) since
  exact revived_of_startup_mem hdisabled
    (hleads.startup_mem hswitches (hstandby hdisabled) (.inr ⟨s, line, answer, hshow⟩))

/-- A startup is refused, another one is not; the engine is disabled, asked in vain to come up, and
enabled again. -/
theorem offAir_run_refused :
    let service : ServiceSettings := ⟨"on air".toList, 4, []⟩
    let settings (enabled : Bool) : Settings :=
      ⟨enabled, ⟨service, service⟩, 64, .fppdStart, .never⟩
    let t : Flaky Recorder := ⟨{}, fun n => n == 1⟩
    let up : Action := .line "INIT".toList
    let before : List Action := [up, up, .tick .ps, .reconfigure (settings false)]
    let since : List Action :=
      [.tick .ps, up, .cycle, .reconfigure (settings true), .tick .rt, up, .tick .ps]
    let e := (ofSettings (settings true) t).1
    let shown : Entry := .call (.show .ps "on air".toList) .done
    Transmitter.Switches (Flaky Recorder) ∧ Transmitter.isActive t = false ∧
      (e.run before).2 = [.call .startup .inactive, .call .startup .done, shown,
        .call (.rtSize 64) .done, .call .shutdown .done] ∧
      ((e.run before).1.run since).2 =
        [.call (.rtSize 64) .done, .call .startup .done, shown] ∧
      (e.run before).1.settings.enabled = false ∧ (e.run before).1.isActive = false ∧
      (e.run before).1.Revived since := by
  intro service settings t up before since e shown
  have hearly : (e.run before).2 = [.call .startup .inactive, .call .startup .done, shown,
      .call (.rtSize 64) .done, .call .shutdown .done] := by
    dsimp only [e, before, up, t, settings, service, shown]
    decide +kernel
  have hlate : ((e.run before).1.run since).2 =
      [.call (.rtSize 64) .done, .call .startup .done, shown] := by
    dsimp only [e, before, since, up, t, settings, service, shown]
    decide +kernel
  have hdown : ShutsDown (e.run (before ++ since)).2 := by
    rw [run_concat, hearly, hlate]
    intro answer hanswer
    simpa [shown] using hanswer
  have hswitches := switches_flaky switches_recorder
  have hdisabled : (e.run before).1.settings.enabled = false := rfl
  obtain ⟨hoff, hshow⟩ := (offAir_run (settings true) t (before ++ since)).2 hswitches rfl hdown
    before since [] (List.append_nil _).symm hdisabled
  refine ⟨hswitches, rfl, hearly, hlate, hdisabled, hoff, hshow .ps "on air".toList .done ?_⟩
  rw [hlate]
  simp [shown]

end Engine
end RadioText
