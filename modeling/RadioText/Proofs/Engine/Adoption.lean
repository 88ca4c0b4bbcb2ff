import RadioText.Proofs.Engine.Coherence
import RadioText.Proofs.Style.Handles

/-! What new settings disturb. A service keeps its template, its lines and its place unless a style is
another one; then both services start over with the lines of the new styles, and still only the
template of another style is replaced. Settings that are in effect already change nothing. -/
namespace RadioText

/-- A channel that is set up as the settings say takes nothing over. -/
theorem Channel.reconfigure_eq_self {c : Channel} {s : ServiceSettings} (h : c.setup = s.setup) :
    c.reconfigure s = c := by
  obtain ⟨htemplate, hrest⟩ := Prod.mk.inj h
  obtain ⟨hfallback, hrate⟩ := Prod.mk.inj hrest
  have hsource : s.style = c.cache.template.source := by
    rw [htemplate]
    rfl
  rw [reconfigure, Cache.update_of_eq hsource, ← hfallback, ← hrate]
  rfl

namespace Engine

variable {τ : Type}

theorem Coherent.source {e : Engine τ} (h : e.Coherent) (s : Service) :
    (e.channels.get s).cache.template.source = (e.settings.services.get s).style := by
  rw [h.template]
  rfl

theorem Coherent.restyles_iff {e : Engine τ} (h : e.Coherent) (settings : Settings) :
    e.restyles settings = true ↔
      ∃ s, (settings.services.get s).style ≠ (e.settings.services.get s).style := by
  have hps := h.source .ps
  have hrt := h.source .rt
  rw [restyles, Bool.or_eq_true, Cache.update_eq_true_iff, Cache.update_eq_true_iff]
  constructor
  · rintro (hne | hne)
    · exact ⟨.ps, fun heq => hne (heq.trans hps.symm)⟩
    · exact ⟨.rt, fun heq => hne (heq.trans hrt.symm)⟩
  · rintro ⟨s, hne⟩
    cases s with
    | ps => exact .inl fun heq => hne (heq.trans hps)
    | rt => exact .inr fun heq => hne (heq.trans hrt)

variable [Transmitter τ]

theorem cache_adopted (e : Engine τ) (settings : Settings) (s : Service) :
    ((e.adopted settings).channels.get s).cache =
      ((e.channels.get s).cache.update (settings.services.get s).style).1 := by
  unfold adopted
  split <;> cases s <;> rfl

theorem Coherent.lines_adopted {e : Engine τ} (h : e.Coherent) {settings : Settings}
    (hr : e.restyles settings = true) (s : Service) :
    (e.adopted settings).lines s =
      (Template.ofStyle (settings.services.get s).style).evaluate e.metadata := by
  rw [← Cache.template_update (h.template s), Engine.adopted, if_pos hr]
  cases s <;> rfl

theorem log_stopTransmitter (e : Engine τ) :
    e.stopTransmitter.2 = if e.isActive = true then
      [.call .shutdown (Transmitter.perform e.transmitter .shutdown).1] else [] := by
  unfold stopTransmitter
  split <;> rfl

theorem log_reconfigure (e : Engine τ) (settings : Settings) :
    let sized := Transmitter.perform e.transmitter (.rtSize settings.rtSize)
    (e.reconfigure settings).1.2 = .call (.rtSize settings.rtSize) sized.1 ::
      if e.settings.enabled = true ∧ settings.enabled = false ∧
        Transmitter.isActive sized.2 = true
      then [.call .shutdown (Transmitter.perform sized.2 .shutdown).1] else [] := by
  have hactive : (e.adopted settings).isActive = Transmitter.isActive
      (Transmitter.perform e.transmitter (.rtSize settings.rtSize)).2 := by
    rw [isActive, transmitter_adopted]
  rw [reconfigure_eq, Step.andThen]
  cases e.settings.enabled <;> cases settings.enabled <;>
    simp [log_stopTransmitter, hactive, transmitter_adopted]

/-- Nothing comes of the settings in effect but that the transmitter gets its buffer size again. -/
theorem Coherent.reconfigure_self {e : Engine τ} (h : e.Coherent) {settings : Settings}
    (hs : e.settings = settings) :
    let sized := Transmitter.perform e.transmitter (.rtSize settings.rtSize)
    e.reconfigure settings =
      (({ e with transmitter := sized.2 }, [.call (.rtSize settings.rtSize) sized.1]), false) := by
  subst hs
  have hrestyles : e.restyles e.settings = false := by
    rw [← Bool.not_eq_true, h.restyles_iff]
    simp
  have hrates : (e.reconfigure e.settings).2 = false := by
    rw [← Bool.not_eq_true, reconfigure_eq_true_iff]
    simp [h.rate]
  have hps : e.channels.ps.reconfigure e.settings.services.ps = e.channels.ps :=
    Channel.reconfigure_eq_self (h .ps)
  have hrt : e.channels.rt.reconfigure e.settings.services.rt = e.channels.rt :=
    Channel.reconfigure_eq_self (h .rt)
  refine Prod.ext ?_ hrates
  rw [reconfigure_eq, Engine.adopted, hps, hrt, hrestyles, Step.andThen]
  simp

/-- New settings for an engine, wherever it has got to. Exactly the templates of other styles are
replaced. If there are none, both services keep their lines and their places; if there is one, both
show the lines of the new styles for the metadata of now, from the first one on. Metadata and
playlist stay. The transmitter is given the buffer size, and is asked to shut down if the settings
disable an engine that is on air; nothing else is asked of it. The same settings once more change no
rate, leave all of the engine as it is, and only give the transmitter the buffer size again. -/
theorem reconfigure_reached {t : τ} {r : Step τ} (h : Reached t r) (settings : Settings) :
    let e := r.1
    let once := e.reconfigure settings
    let e' := once.1.1
    let again := e'.reconfigure settings
    let sized := Transmitter.perform e.transmitter (.rtSize settings.rtSize)
    let sizedAgain := Transmitter.perform e'.transmitter (.rtSize settings.rtSize)
    let SameStyle (s : Service) : Prop :=
      (settings.services.get s).style = (e.settings.services.get s).style
    (∀ s, ((e'.channels.get s).cache.identical (e.channels.get s).cache = true ↔ SameStyle s) ∧
      (SameStyle s → (e'.channels.get s).cache = (e.channels.get s).cache)) ∧
    ((∀ s, SameStyle s) → ∀ s, e'.lines s = e.lines s ∧
      (e'.rotation s).position = (e.rotation s).position) ∧
    ((∃ s, ¬ SameStyle s) → ∀ s,
      e'.lines s = (Template.ofStyle (settings.services.get s).style).evaluate e.metadata ∧
      (e'.rotation s).position = 0) ∧
    (e'.metadata = e.metadata ∧ e'.playlist = e.playlist ∧ e'.settings = settings) ∧
    once.1.2 = .call (.rtSize settings.rtSize) sized.1 ::
      (if e.settings.enabled = true ∧ settings.enabled = false ∧
        Transmitter.isActive sized.2 = true
      then [.call .shutdown (Transmitter.perform sized.2 .shutdown).1] else []) ∧
    again = (({ e' with transmitter := sizedAgain.2 },
      [.call (.rtSize settings.rtSize) sizedAgain.1]), false) := by
  intro e once e' again sized sizedAgain SameStyle
  have hcoherent : e.Coherent := (inEffect_reached h).coherent
  have hsettings : e'.settings = settings := e.settings_reconfigure settings
  have hcache (s : Service) : (e'.channels.get s).cache =
      ((e.channels.get s).cache.update (settings.services.get s).style).1 := by
    rw [← cache_adopted, ← channels_reconfigure]
  have hrotation (s : Service) : e'.rotation s = (e.adopted settings).rotation s := by
    rw [rotation, channels_reconfigure, rotation]
  refine ⟨fun s => ?_, fun hsame s => ?_, fun hother s => ?_,
    ⟨e.metadata_reconfigure settings, e.playlist_reconfigure settings, hsettings⟩,
    e.log_reconfigure settings, ?_⟩
  · rw [hcache]
    have hiff : ((e.channels.get s).cache.update (settings.services.get s).style).2 = false ↔
        SameStyle s := by
      rw [← Bool.not_eq_true, Cache.update_eq_true_iff, hcoherent.source, Classical.not_not]
    refine ⟨(Cache.identical_update_iff _ _).trans hiff, fun hs => ?_⟩
    rw [Cache.update_of_eq (hs.trans (hcoherent.source s).symm)]
  · have hrestyles : e.restyles settings = false := by
      rw [← Bool.not_eq_true, hcoherent.restyles_iff]
      rintro ⟨s, hne⟩
      exact hne (hsame s)
    have hplace := place_adopted hrestyles s
    rw [← hrotation] at hplace
    exact Prod.mk.inj hplace
  · have hrestyles : e.restyles settings = true := (hcoherent.restyles_iff settings).2 hother
    refine ⟨?_, ?_⟩
    · rw [← hcoherent.lines_adopted hrestyles]
      exact congrArg Rotation.lines (hrotation s)
    · rw [hrotation]
      exact position_adopted hrestyles s
  · exact (hcoherent.reconfigure settings).reconfigure_self hsettings

/-- Settings that only take the transmitter down, in the middle of the lines; and settings with
another style for one service. -/
theorem reconfigure_reached_midway :
    let settings (enabled : Bool) (rtStyle fallback : String) (rtSize : Nat) : Settings :=
      ⟨enabled, ⟨⟨"a|b".toList, 4, fallback.toList⟩, ⟨rtStyle.toList, 8, []⟩⟩, rtSize, .fppdStart,
        .never⟩
    let before := settings true "\x7bT\x7d" "" 64
    let off := settings false "\x7bT\x7d" "off" 32
    let other := settings true "\x7bT\x7d|c" "" 64
    let told (c : Command) (r : Step Recorder) : Step Recorder := r.andThen fun e => (e.apply c).1
    let r := (told (.trackLength 5) (told (.title ['x'])
      (told .init (Engine.ofSettings before {})))).andThen fun e => e.act (.tick .ps)
    let down := r.1.reconfigure off
    let changed := r.1.reconfigure other
    Reached {} r ∧
      down.1.2 = [.call (.rtSize 32) .done, .call .shutdown .done] ∧
      (∀ s, down.1.1.lines s = r.1.lines s ∧
        (down.1.1.rotation s).position = (r.1.rotation s).position) ∧
      down.1.1.reconfigure off = ((down.1.1, [.call (.rtSize 32) .done]), false) ∧
      (changed.1.1.channels.ps.cache.identical r.1.channels.ps.cache = true ∧
        changed.1.1.channels.rt.cache.identical r.1.channels.rt.cache = false) ∧
      (∀ s, changed.1.1.lines s =
          (Template.ofStyle (other.services.get s).style).evaluate r.1.metadata ∧
        (changed.1.1.rotation s).position = 0) ∧
      (r.1.rotation .ps).position = 1 ∧ changed.1.1.lines .rt = [['x'], ['c']] := by
  intro settings before off other told r down changed
  have hreached : Reached {} r := .act _ (.command _ (.command _ (.command _ (.start before))))
  obtain ⟨_, hkept, _, _, _, hagain⟩ := reconfigure_reached hreached off
  obtain ⟨htemplates, _, hlines, _⟩ := reconfigure_reached hreached other
  have hother : other.services.rt.style ≠ r.1.settings.services.rt.style := by
    dsimp only [r, told, before, other, settings]
    decide +kernel
  -- A recorder takes no note of the buffer size.
  have hstill (e : Engine Recorder) :
      { e with transmitter := (Transmitter.perform e.transmitter (.rtSize 32)).2 } = e := rfl
  have hsame : ∀ s, (off.services.get s).style = (r.1.settings.services.get s).style := by
    intro s
    cases s <;> rfl
  have hlog : down.1.2 = [.call (.rtSize 32) .done, .call .shutdown .done] := by
    dsimp only [down, r, told, before, off, settings]
    decide +kernel
  refine ⟨hreached, hlog, ?_, ?_, ⟨?_, ?_⟩, ?_, ?_, ?_⟩
  · exact hkept hsame
  · exact hagain.trans (congrArg (fun e => ((e, [_]), false)) (hstill down.1.1))
  · exact (htemplates .ps).1.2 rfl
  · exact eq_false_of_ne_true fun h => hother ((htemplates .rt).1.1 h)
  · exact hlines ⟨.rt, hother⟩
  all_goals
    dsimp only [r, changed, told, before, other, settings]
    decide +kernel

end Engine
end RadioText
