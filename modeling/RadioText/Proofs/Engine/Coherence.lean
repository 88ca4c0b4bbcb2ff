import RadioText.Proofs.Engine.Place

/-! Settings in effect. Style, fallback and rate of a service are kept in its channel, and the
buffer size in the transmitter; new settings replace all of these copies, and nothing else touches
them. So they always agree with the settings, whatever was done and whatever calls were refused. -/
namespace RadioText

def Channel.setup (c : Channel) : Template × Text × Nat :=
  (c.cache.template, c.rotation.fallback, c.rate)

def ServiceSettings.setup (s : ServiceSettings) : Template × Text × Nat :=
  (Template.ofStyle s.style, s.fallback, s.rate)

def Entry.rtSize? : Entry → Option Nat
  | .call (.rtSize n) _ => some n
  | _ => none

def rtSizes (log : List Entry) : List Nat := log.filterMap Entry.rtSize?

theorem rtSizes_append (log more : List Entry) :
    rtSizes (log ++ more) = rtSizes log ++ rtSizes more :=
  List.filterMap_append

theorem Channel.setup_refresh (m : Metadata) (c : Channel) : (c.refresh m).setup = c.setup := rfl

theorem Channel.setup_restart (c : Channel) : c.restart.setup = c.setup := rfl

theorem Channel.setup_advance (c : Channel) : c.advance.setup = c.setup := by
  rw [advance, setup, Rotation.advance]
  split <;> rfl

theorem Channel.setup_reconfigure {c : Channel} {old : Text}
    (h : c.cache.template = Template.ofStyle old) (s : ServiceSettings) :
    (c.reconfigure s).setup = s.setup := by
  rw [setup, ServiceSettings.setup, ← Cache.template_update h s.style]
  rfl

namespace Engine

variable {τ : Type}

structure Untouched (e : Engine τ) (r : Step τ) : Prop where
  settings : r.1.settings = e.settings
  setup : ∀ s, (r.1.channels.get s).setup = (e.channels.get s).setup
  rtSizes : rtSizes r.2 = []

theorem Untouched.none (e : Engine τ) : e.Untouched (e, []) := ⟨rfl, fun _ => rfl, rfl⟩

theorem Untouched.andThen {e : Engine τ} {r : Step τ} {f : Engine τ → Step τ}
    (h : e.Untouched r) (hf : ∀ e' : Engine τ, e'.Untouched (f e')) :
    e.Untouched (r.andThen f) where
  settings := (hf r.1).settings.trans h.settings
  setup s := ((hf r.1).setup s).trans (h.setup s)
  rtSizes := by
    rw [Step.andThen, rtSizes_append, h.rtSizes, (hf r.1).rtSizes, List.append_nil]

theorem Untouched.rate {e : Engine τ} {r : Step τ} (h : e.Untouched r) (s : Service) :
    (r.1.channels.get s).rate = (e.channels.get s).rate :=
  congrArg (·.2.2) (h.setup s)

theorem untouched_refresh (e : Engine τ) : e.Untouched (e.refresh, []) where
  settings := rfl
  setup s := by
    cases s <;> exact Channel.setup_refresh _ _
  rtSizes := rfl

theorem untouched_withMetadata (e : Engine τ) (m : Metadata) :
    e.Untouched (e.withMetadata m, []) := ⟨rfl, fun _ => rfl, rfl⟩

theorem untouched_refreshed (e : Engine τ) (m : Metadata) :
    e.Untouched ((e.withMetadata m).refresh, []) :=
  (e.untouched_withMetadata m).andThen fun e' => e'.untouched_refresh

def Coherent (e : Engine τ) : Prop :=
  ∀ s, (e.channels.get s).setup = (e.settings.services.get s).setup

theorem Coherent.of_untouched {e : Engine τ} {r : Step τ} (h : e.Coherent)
    (hr : e.Untouched r) : r.1.Coherent := by
  intro s
  rw [hr.setup, hr.settings]
  exact h s

theorem Coherent.template {e : Engine τ} (h : e.Coherent) (s : Service) :
    (e.channels.get s).cache.template = Template.ofStyle (e.settings.services.get s).style :=
  congrArg Prod.fst (h s)

theorem Coherent.fallback {e : Engine τ} (h : e.Coherent) (s : Service) :
    (e.channels.get s).rotation.fallback = (e.settings.services.get s).fallback :=
  congrArg (·.2.1) (h s)

theorem Coherent.rate {e : Engine τ} (h : e.Coherent) (s : Service) :
    (e.channels.get s).rate = (e.settings.services.get s).rate :=
  congrArg (·.2.2) (h s)

/-- The engine agrees with its settings, and so does the buffer size last given to the
transmitter. -/
structure InEffect (r : Step τ) : Prop where
  coherent : r.1.Coherent
  rtSize : (rtSizes r.2).getLast? = some r.1.settings.rtSize

theorem InEffect.andThen {r : Step τ} (h : InEffect r) {f : Engine τ → Step τ}
    (hf : r.1.Untouched (f r.1)) : InEffect (r.andThen f) where
  coherent := h.coherent.of_untouched (r := f r.1) hf
  rtSize := by
    rw [Step.andThen, rtSizes_append, hf.rtSizes, List.append_nil, hf.settings]
    exact h.rtSize

variable [Transmitter τ]

theorem untouched_startTransmitter (e : Engine τ) : e.Untouched e.startTransmitter := by
  obtain ⟨_, h⟩ | ⟨_, _, a, t, _, h⟩ := e.startTransmitter_cases
  · rw [h]
    exact .none e
  · rw [h]
    refine ⟨rfl, fun s => ?_, rfl⟩
    cases a with
    | done => cases s <;> exact Channel.setup_restart _
    | inactive => rfl

theorem untouched_stopTransmitter (e : Engine τ) : e.Untouched e.stopTransmitter := by
  obtain ⟨_, h⟩ | ⟨_, a, t, _, h⟩ := e.stopTransmitter_cases
  · rw [h]
    exact .none e
  · rw [h]
    exact ⟨rfl, fun _ => rfl, rfl⟩

theorem untouched_cycleTransmitter (e : Engine τ) : e.Untouched e.cycleTransmitter := by
  unfold cycleTransmitter
  refine e.untouched_stopTransmitter.andThen fun e' => ?_
  split
  · exact e'.untouched_startTransmitter
  · exact .none e'

theorem untouched_tick (e : Engine τ) (s : Service) : e.Untouched (e.tick s) := by
  cases h : e.isActive with
  | false =>
    rw [tick_of_inactive h]
    exact .none e
  | true =>
    obtain ⟨a, t, _, htick⟩ := tick_of_active h s
    rw [htick]
    refine ⟨rfl, fun s' => ?_, rfl⟩
    cases s <;> cases s' <;> first | rfl | exact Channel.setup_advance _

theorem untouched_apply (e : Engine τ) (c : Command) : e.Untouched (e.apply c).1 := by
  cases c with
  | init | start =>
    rw [apply]
    split
    · exact e.untouched_startTransmitter
    · exact .none e
  | stop =>
    have hcleared := e.untouched_refreshed e.metadata.clearTrack
    rw [apply]
    simp only
    split
    · exact hcleared.andThen fun e' => e'.untouched_stopTransmitter
    · exact hcleared
  | exit => exact e.untouched_stopTransmitter
  | reset | update | mainPlaylist => exact ⟨rfl, fun _ => rfl, rfl⟩
  | title | artist | album | genre | trackNumber => exact e.untouched_withMetadata _
  | trackLength | playlistPosition | playlistCount => exact e.untouched_refreshed _

theorem untouched_handleLine (e : Engine τ) (t : Text) : e.Untouched (e.handleLine t).1 := by
  cases hc : Command.read t with
  | ok c =>
    rw [handleLine_ok hc]
    exact e.untouched_apply c
  | error err => cases err <;> simpa [handleLine, hc] using ⟨rfl, fun _ => rfl, rfl⟩

theorem coherent_ofSettings (s : Settings) (t : τ) : (ofSettings s t).1.Coherent := by
  intro service
  cases service <;> rfl

theorem settings_adopted (e : Engine τ) (s : Settings) : (e.adopted s).settings = s := by
  rw [adopted]
  split <;> rfl

theorem Coherent.adopted {e : Engine τ} (h : e.Coherent) (s : Settings) :
    (e.adopted s).Coherent := by
  intro service
  rw [settings_adopted]
  have hnew := Channel.setup_reconfigure (h.template service) (s.services.get service)
  rw [← hnew, Engine.adopted]
  split <;> cases service <;> rfl

/-- Once other settings are adopted, only the transmitter can be taken down. -/
theorem exists_reconfigure (e : Engine τ) (s : Settings) :
    ∃ a r, (e.reconfigure s).1 = (r.1, .call (.rtSize s.rtSize) a :: r.2) ∧
      (e.adopted s).Untouched r := by
  refine ⟨_, if e.settings.enabled && !s.enabled then (e.adopted s).stopTransmitter
    else (e.adopted s, []), reconfigure_eq e s, ?_⟩
  split
  · exact untouched_stopTransmitter _
  · exact .none _

theorem Coherent.reconfigure {e : Engine τ} (h : e.Coherent) (s : Settings) :
    (e.reconfigure s).1.1.Coherent := by
  obtain ⟨a, r, hr, hkept⟩ := e.exists_reconfigure s
  rw [hr]
  exact (h.adopted s).of_untouched (r := r) hkept

theorem rtSizes_reconfigure (e : Engine τ) (s : Settings) :
    rtSizes (e.reconfigure s).1.2 = [s.rtSize] := by
  obtain ⟨a, r, hr, hkept⟩ := e.exists_reconfigure s
  rw [hr]
  exact congrArg (s.rtSize :: ·) hkept.rtSizes

theorem settings_reconfigure (e : Engine τ) (s : Settings) :
    (e.reconfigure s).1.1.settings = s := by
  obtain ⟨a, r, hr, hkept⟩ := e.exists_reconfigure s
  rw [hr]
  exact hkept.settings.trans (e.settings_adopted s)

/-- Other settings are reported to change a rate exactly if they differ from a rate in effect. -/
theorem reconfigure_eq_true_iff (e : Engine τ) (s : Settings) :
    (e.reconfigure s).2 = true ↔
      ∃ service, (s.services.get service).rate ≠ (e.channels.get service).rate := by
  have hreturned : (e.reconfigure s).2 =
      (e.channels.ps.rate != s.services.ps.rate || e.channels.rt.rate != s.services.rt.rate) := rfl
  rw [hreturned, Bool.or_eq_true, bne_iff_ne, bne_iff_ne]
  constructor
  · rintro (hne | hne)
    · exact ⟨.ps, hne.symm⟩
    · exact ⟨.rt, hne.symm⟩
  · rintro ⟨service, hne⟩
    cases service with
    | ps => exact .inl hne.symm
    | rt => exact .inr hne.symm

end Engine

variable {τ : Type} [Transmitter τ]

/-- What can become of an engine with a given transmitter, and what it does meanwhile: it starts
with some settings, and takes commands, ticks, other settings and whatever else can be done to it,
in any order. -/
inductive Reached (t : τ) : Step τ → Prop
  | start (settings : Settings) : Reached t (Engine.ofSettings settings t)
  | command (c : Command) {r : Step τ} (h : Reached t r) :
      Reached t (r.andThen fun e => (e.apply c).1)
  | act (a : Action) {r : Step τ} (h : Reached t r) : Reached t (r.andThen fun e => e.act a)

namespace Engine

theorem inEffect_ofSettings (s : Settings) (t : τ) : InEffect (ofSettings s t) :=
  ⟨coherent_ofSettings s t, rfl⟩

theorem InEffect.reconfigure {r : Step τ} (h : InEffect r) (s : Settings) :
    InEffect (r.andThen fun e => (e.reconfigure s).1) where
  coherent := h.coherent.reconfigure s
  rtSize := by
    rw [Step.andThen, rtSizes_append, rtSizes_reconfigure, settings_reconfigure,
      List.getLast?_concat]

theorem InEffect.act {r : Step τ} (h : InEffect r) (a : Action) :
    InEffect (r.andThen fun e => e.act a) := by
  cases a with
  | line t => exact h.andThen (untouched_handleLine _ t)
  | tick s => exact h.andThen (untouched_tick _ s)
  | refresh => exact h.andThen (untouched_refresh _)
  | reconfigure s => exact h.reconfigure s
  | cycle => exact h.andThen (untouched_cycleTransmitter _)

theorem inEffect_reached {t : τ} {r : Step τ} (h : Reached t r) : InEffect r := by
  induction h with
  | start settings => exact inEffect_ofSettings settings t
  | command c _ ih => exact ih.andThen (untouched_apply _ c)
  | act a _ ih => exact ih.act a

theorem leads_reached {t : τ} {r : Step τ} (h : Reached t r) : Leads t r.2 r.1.transmitter := by
  induction h with
  | start settings => exact leads_ofSettings settings t
  | command c _ ih => exact Step.leads_andThen ih fun e => e.leads_apply c
  | act a _ ih => exact Step.leads_andThen ih fun e => e.leads_act a

/-- Wherever an engine gets, whatever its transmitter refuses: both services have the template of
their style, their fallback and their rate as the settings have them; among the calls its
transmitter got, the last one for a buffer size has that of the settings; and other settings are
reported to change a rate exactly if one differs. -/
theorem settings_reached {t : τ} {r : Step τ} (h : Reached t r) :
    (∀ s, (r.1.channels.get s).cache.template.source = (r.1.settings.services.get s).style ∧
      (r.1.channels.get s).cache.template = Template.ofStyle (r.1.settings.services.get s).style ∧
      (r.1.channels.get s).rotation.fallback = (r.1.settings.services.get s).fallback ∧
      (r.1.channels.get s).rate = (r.1.settings.services.get s).rate) ∧
    Leads t r.2 r.1.transmitter ∧ (rtSizes r.2).getLast? = some r.1.settings.rtSize ∧
    ∀ new, (r.1.reconfigure new).2 = true ↔
      ∃ s, (new.services.get s).rate ≠ (r.1.settings.services.get s).rate := by
  have heffect := inEffect_reached h
  have hsetup := heffect.coherent
  refine ⟨fun s => ?_, leads_reached h, heffect.rtSize, fun new => ?_⟩
  · have htemplate := hsetup.template s
    exact ⟨by rw [htemplate]; rfl, htemplate, hsetup.fallback s, hsetup.rate s⟩
  · rw [reconfigure_eq_true_iff]
    simp only [hsetup.rate]

/-- A transmitter that refuses its shutdown and its Program Service lines is given other settings
that take it down. -/
theorem settings_reached_disabled :
    let before : Settings := ⟨true, ⟨⟨"\x7bT\x7d".toList, 4, "off air".toList⟩,
      ⟨"\x7bA\x7d".toList, 8, []⟩⟩, 64, .fppdStart, .never⟩
    let after : Settings := ⟨false, ⟨⟨"\x7bB\x7d".toList, 5, []⟩,
      ⟨"\x7bA\x7d".toList, 8, "at night".toList⟩⟩, 32, .fppdStart, .never⟩
    let t : Faulty Recorder := ⟨{}, { shutdown := true, ps := true }⟩
    let r := (((Engine.ofSettings before t).andThen fun e => (e.apply .init).1).andThen
      fun e => e.act (.tick .ps)).andThen fun e => e.act (.reconfigure after)
    Reached t r ∧ r.1.settings = after ∧
      r.2 = [.call (.rtSize 64) .done, .call .startup .done,
        .call (.show .ps "off air".toList) .inactive, .call (.rtSize 32) .done,
        .call .shutdown .inactive] ∧
      (∀ s, (r.1.channels.get s).cache.template.source = (after.services.get s).style ∧
        (r.1.channels.get s).cache.template = Template.ofStyle (after.services.get s).style ∧
        (r.1.channels.get s).rotation.fallback = (after.services.get s).fallback ∧
        (r.1.channels.get s).rate = (after.services.get s).rate) ∧
      Leads t r.2 r.1.transmitter ∧ (rtSizes r.2).getLast? = some 32 ∧
      (r.1.reconfigure before).2 = true := by
  intro before after t r
  have hreached : Reached t r := .act _ (.act _ (.command _ (.start before)))
  have hsettings : r.1.settings = after := rfl
  have hlog : r.2 = [.call (.rtSize 64) .done, .call .startup .done,
      .call (.show .ps "off air".toList) .inactive, .call (.rtSize 32) .done,
      .call .shutdown .inactive] := by
    dsimp only [r, t, before, after]
    decide +kernel
  obtain ⟨hservices, hleads, hsize, hrates⟩ := settings_reached hreached
  rw [hsettings] at hservices hsize hrates
  exact ⟨hreached, hsettings, hlog, hservices, hleads, hsize, (hrates before).2 ⟨.ps, by decide⟩⟩

end Engine
end RadioText
