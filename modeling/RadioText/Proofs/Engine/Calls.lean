import RadioText.Proofs.Engine.Run

/-! What an engine asks of its transmitter. A startup is asked for only while the transmitter is
off, a shutdown or a line only while it is on. The log of a run is the list of these calls with
their answers, so what such calls preserve is preserved by every run. -/
namespace RadioText

def Call.fits (active : Bool) : Call → Bool
  | .startup => !active
  | .shutdown | .show _ _ => active
  | .rtSize _ => true

def Transmitter.Steady (τ : Type) [Transmitter τ] : Prop :=
  ∀ (t : τ) (s : Service) (line : Text),
    Transmitter.isActive (Transmitter.perform t (.show s line)).2 = Transmitter.isActive t

theorem steady_recorder : Transmitter.Steady Recorder := by
  intro r s line
  change ((r.perform (.show s line)).2).active = r.active
  rw [Recorder.perform]
  split <;> rfl

theorem steady_logger : Transmitter.Steady Logger := by
  intro l s line
  change ((l.perform (.show s line)).2).active = l.active
  cases hl : l.active <;> simp [Logger.perform, hl]

theorem steady_faulty {τ : Type} [Transmitter τ] (h : Transmitter.Steady τ) :
    Transmitter.Steady (Faulty τ) := by
  intro f s line
  change (!(f.perform (.show s line)).2.faults.dead &&
    Transmitter.isActive (f.perform (.show s line)).2.inner) =
    (!f.faults.dead && Transmitter.isActive f.inner)
  unfold Faulty.perform
  split
  · rfl
  · exact congrArg (!f.faults.dead && ·) (h f.inner s line)

variable {τ : Type} [Transmitter τ]

/-- The log leads from one state of the transmitter to another: each call in it fits the state it
is made in, and is answered by the transmitter. -/
inductive Leads : τ → List Entry → τ → Prop
  | nil (t : τ) : Leads t [] t
  | call {t t' after : τ} {c : Call} {a : Answer} {log : List Entry}
      (hfits : c.fits (Transmitter.isActive t) = true)
      (hperform : Transmitter.perform t c = (a, t')) (h : Leads t' log after) :
      Leads t (.call c a :: log) after
  | rejected {t after : τ} {log : List Entry} (err : CommandError) (h : Leads t log after) :
      Leads t (.rejected err :: log) after
  | kept {t after : τ} {log : List Entry} (reason : Text) (h : Leads t log after) :
      Leads t (.kept reason :: log) after

namespace Leads

theorem append {t t' after : τ} {log more : List Entry} (h : Leads t log t')
    (hmore : Leads t' more after) : Leads t (log ++ more) after := by
  induction h with
  | nil => exact hmore
  | call hfits hperform _ ih => exact .call hfits hperform (ih hmore)
  | rejected err _ ih => exact .rejected err (ih hmore)
  | kept reason _ ih => exact .kept reason (ih hmore)

theorem single {t t' : τ} {c : Call} {a : Answer} (hfits : c.fits (Transmitter.isActive t) = true)
    (hperform : Transmitter.perform t c = (a, t')) : Leads t [.call c a] t' :=
  .call hfits hperform (.nil t')

/-- What fitting calls preserve, the log preserves. -/
theorem invariant {P : τ → Prop}
    (hstep : ∀ t c, P t → c.fits (Transmitter.isActive t) = true → P (Transmitter.perform t c).2)
    {t after : τ} {log : List Entry} (h : Leads t log after) (ht : P t) : P after := by
  induction h with
  | nil => exact ht
  | @call t t' _ c a _ hfits hperform _ ih =>
    have hnext := hstep t c ht hfits
    rw [hperform] at hnext
    exact ih hnext
  | rejected _ _ ih | kept _ _ ih => exact ih ht

/-- While a steady transmitter is only given lines, it stays on air or off. -/
theorem isActive (hsteady : Transmitter.Steady τ) {t after : τ} {log : List Entry}
    (h : Leads t log after) (hshow : ∀ entry ∈ log, ∃ s line a, entry = .call (.show s line) a) :
    Transmitter.isActive after = Transmitter.isActive t := by
  induction h with
  | nil => rfl
  | @call t t' after c a log _ hperform _ ih =>
    obtain ⟨s, line, _, heq⟩ := hshow _ List.mem_cons_self
    cases heq
    have hkept := hsteady t s line
    rw [hperform] at hkept
    rw [ih fun entry hentry => hshow entry (List.mem_cons_of_mem _ hentry)]
    exact hkept
  | rejected =>
    obtain ⟨_, _, _, heq⟩ := hshow _ List.mem_cons_self
    cases heq
  | kept =>
    obtain ⟨_, _, _, heq⟩ := hshow _ List.mem_cons_self
    cases heq

end Leads

theorem Step.leads_andThen {t : τ} {s : Step τ} {f : Engine τ → Step τ}
    (hs : Leads t s.2 s.1.transmitter)
    (hf : ∀ e, Leads e.transmitter (f e).2 (f e).1.transmitter) :
    Leads t (s.andThen f).2 (s.andThen f).1.transmitter :=
  hs.append (hf s.1)

namespace Engine

def rotation (s : Service) (e : Engine τ) : Rotation := (e.channels.get s).rotation

theorem request_eq (e : Engine τ) (c : Call) :
    ∃ a t, Transmitter.perform e.transmitter c = (a, t) ∧
      e.request c = (a, { e with transmitter := t }, [.call c a]) :=
  ⟨_, _, rfl, rfl⟩

theorem startTransmitter_cases (e : Engine τ) :
    ((e.settings.enabled = false ∨ e.isActive = true) ∧ e.startTransmitter = (e, [])) ∨
    (e.settings.enabled = true ∧ e.isActive = false ∧
      ∃ a t, Transmitter.perform e.transmitter .startup = (a, t) ∧
        e.startTransmitter = ({ e with
          channels := if a = .done then e.channels.map Channel.restart else e.channels
          transmitter := t }, [.call .startup a])) := by
  by_cases h : e.settings.enabled = false ∨ e.isActive = true
  · refine .inl ⟨h, ?_⟩
    rw [startTransmitter, if_pos (by simpa using h)]
  · have hoff : e.settings.enabled = true ∧ e.isActive = false := by simpa using h
    obtain ⟨a, t, hperform, hrequest⟩ := e.request_eq .startup
    refine .inr ⟨hoff.1, hoff.2, a, t, hperform, ?_⟩
    rw [startTransmitter, if_neg (by simp [hoff]), hrequest]
    cases a <;> rfl

theorem stopTransmitter_cases (e : Engine τ) :
    (e.isActive = false ∧ e.stopTransmitter = (e, [])) ∨
    (e.isActive = true ∧ ∃ a t, Transmitter.perform e.transmitter .shutdown = (a, t) ∧
      e.stopTransmitter = ({ e with transmitter := t }, [.call .shutdown a])) := by
  cases h : e.isActive with
  | false => exact .inl ⟨rfl, by simp [stopTransmitter, h]⟩
  | true =>
    obtain ⟨a, t, hperform, hrequest⟩ := e.request_eq .shutdown
    exact .inr ⟨rfl, a, t, hperform, by simp [stopTransmitter, h, hrequest]⟩

theorem tick_of_inactive {e : Engine τ} (h : e.isActive = false) (s : Service) :
    e.tick s = (e, []) := by
  simp [tick, h]

theorem tick_of_active {e : Engine τ} (h : e.isActive = true) (s : Service) :
    ∃ a t, Transmitter.perform e.transmitter (.show s (e.rotation s).current) = (a, t) ∧
      e.tick s = ({ e with
        channels := e.channels.modify s Channel.advance
        transmitter := t }, [.call (.show s (e.rotation s).current) a]) := by
  obtain ⟨a, t, hperform, hrequest⟩ :=
    request_eq { e with channels := e.channels.modify s Channel.advance }
      (.show s (e.rotation s).current)
  refine ⟨a, t, hperform, ?_⟩
  rw [tick, if_pos h]
  exact congrArg Prod.snd hrequest

def adopted (e : Engine τ) (s : Settings) : Engine τ :=
  let e' : Engine τ := { e with
    settings := s
    channels := ⟨e.channels.ps.reconfigure s.services.ps, e.channels.rt.reconfigure s.services.rt⟩
    transmitter := (Transmitter.perform e.transmitter (.rtSize s.rtSize)).2 }
  if e.restyles s then e'.refresh else e'

theorem reconfigure_eq (e : Engine τ) (s : Settings) :
    (e.reconfigure s).1 =
      Step.andThen (e.adopted s,
          [.call (.rtSize s.rtSize) (Transmitter.perform e.transmitter (.rtSize s.rtSize)).1])
        fun e' => if e.settings.enabled && !s.enabled then e'.stopTransmitter else (e', []) :=
  rfl

/-- Once other settings are adopted, only the transmitter is another. -/
theorem reconfigure_eq_adopted (e : Engine τ) (settings : Settings) :
    ∃ t, (e.reconfigure settings).1.1 = { e.adopted settings with transmitter := t } := by
  rw [reconfigure_eq, Step.andThen]
  simp only
  split
  · obtain ⟨_, h⟩ | ⟨_, _, t, _, h⟩ := (e.adopted settings).stopTransmitter_cases
    · exact ⟨_, by rw [h]⟩
    · exact ⟨t, by rw [h]⟩
  · exact ⟨_, rfl⟩

theorem metadata_reconfigure (e : Engine τ) (settings : Settings) :
    (e.reconfigure settings).1.1.metadata = e.metadata := by
  obtain ⟨_, h⟩ := e.reconfigure_eq_adopted settings
  rw [h, adopted]
  split <;> rfl

theorem playlist_reconfigure (e : Engine τ) (settings : Settings) :
    (e.reconfigure settings).1.1.playlist = e.playlist := by
  obtain ⟨_, h⟩ := e.reconfigure_eq_adopted settings
  rw [h, adopted]
  split <;> rfl

theorem transmitter_adopted (e : Engine τ) (s : Settings) :
    (e.adopted s).transmitter = (Transmitter.perform e.transmitter (.rtSize s.rtSize)).2 := by
  unfold adopted
  split <;> rfl

theorem leads_startTransmitter (e : Engine τ) :
    Leads e.transmitter e.startTransmitter.2 e.startTransmitter.1.transmitter := by
  obtain ⟨_, h⟩ | ⟨_, hoff, a, t, hperform, h⟩ := e.startTransmitter_cases
  · rw [h]
    exact .nil _
  · rw [h]
    refine .single ?_ hperform
    change (!e.isActive) = true
    rw [hoff, Bool.not_false]

theorem leads_stopTransmitter (e : Engine τ) :
    Leads e.transmitter e.stopTransmitter.2 e.stopTransmitter.1.transmitter := by
  obtain ⟨_, h⟩ | ⟨hon, a, t, hperform, h⟩ := e.stopTransmitter_cases
  · rw [h]
    exact .nil _
  · rw [h]
    exact .single hon hperform

theorem leads_cycleTransmitter (e : Engine τ) :
    Leads e.transmitter e.cycleTransmitter.2 e.cycleTransmitter.1.transmitter := by
  refine Step.leads_andThen e.leads_stopTransmitter fun e' => ?_
  split
  · exact e'.leads_startTransmitter
  · exact .nil _

theorem leads_tick (e : Engine τ) (s : Service) :
    Leads e.transmitter (e.tick s).2 (e.tick s).1.transmitter := by
  cases h : e.isActive with
  | false =>
    rw [tick_of_inactive h]
    exact .nil _
  | true =>
    obtain ⟨a, t, hperform, htick⟩ := tick_of_active h s
    rw [htick]
    exact .single h hperform

theorem leads_reconfigure (e : Engine τ) (s : Settings) :
    Leads e.transmitter (e.reconfigure s).1.2 (e.reconfigure s).1.1.transmitter := by
  rw [reconfigure_eq]
  refine Step.leads_andThen ?_ fun e' => ?_
  · rw [transmitter_adopted]
    exact .single rfl rfl
  · split
    · exact e'.leads_stopTransmitter
    · exact .nil _

theorem leads_apply (e : Engine τ) (c : Command) :
    Leads e.transmitter (e.apply c).1.2 (e.apply c).1.1.transmitter := by
  cases c with
  | init | start =>
    rw [apply]
    split
    · exact e.leads_startTransmitter
    · exact .nil _
  | stop =>
    rw [apply]
    simp only
    split
    · exact (e.withMetadata e.metadata.clearTrack).refresh.leads_stopTransmitter
    · exact .nil _
  | exit => exact e.leads_stopTransmitter
  | _ => exact .nil _

theorem leads_act (e : Engine τ) (a : Action) :
    Leads e.transmitter (e.act a).2 (e.act a).1.transmitter := by
  cases a with
  | line t =>
    cases hc : Command.read t with
    | ok c =>
      rw [act, handleLine_ok hc]
      exact e.leads_apply c
    | error err =>
      rw [act, engine_handleLine_error hc]
      cases err with
      | empty => simpa [handleLine, hc] using Leads.nil e.transmitter
      | _ => simpa [handleLine, hc] using Leads.rejected _ (Leads.nil e.transmitter)
  | tick s => exact e.leads_tick s
  | refresh => exact .nil _
  | reconfigure s => exact e.leads_reconfigure s
  | cycle => exact e.leads_cycleTransmitter

end Engine

/-- A run leads on from wherever the log led before it. -/
theorem Step.leads_run {t : τ} {s : Step τ} (h : Leads t s.2 s.1.transmitter)
    (actions : List Action) : Leads t (s.run actions).2 (s.run actions).1.transmitter := by
  induction actions generalizing s with
  | nil => exact h
  | cons a actions ih => exact ih (leads_andThen h fun e => e.leads_act a)

theorem Engine.leads_ofSettings (s : Settings) (t : τ) :
    Leads t (ofSettings s t).2 (ofSettings s t).1.transmitter :=
  .single rfl rfl

end RadioText
