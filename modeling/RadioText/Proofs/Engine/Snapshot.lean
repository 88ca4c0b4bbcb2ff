import Mathlib.Data.List.Induction
import RadioText.Proofs.Engine.Display

/-! The lines on air are a snapshot. Whatever is done to an engine, both services show the lines of
their current styles for the metadata of one and the same moment: the last time they were
refreshed. Since then only values of the track can have changed. -/
namespace RadioText

def Command.describesTrack : Command → Bool
  | .title _ | .artist _ | .album _ | .genre _ | .trackNumber _ => true
  | _ => false

def Field.refreshed : List Field := [.trackLength, .playlistCount, .playlistPosition]

theorem Command.revise_of_not_describesTrack {c : Command} (hr : c.refreshes = false)
    (hd : c.describesTrack = false) (m : Metadata) : c.revise m = m := by
  cases c <;> simp_all [refreshes, describesTrack, revise]

theorem Command.value?_revise {c : Command} (hr : c.refreshes = false) (m : Metadata) {k : Field}
    (hk : k ∈ Field.refreshed) : (c.revise m).value? k = m.value? k := by
  have assigned {j : Field} (hj : j ∉ Field.refreshed) (v : Option Text) :
      (m.assign j v).value? k = m.value? k := by
    have hne : k ≠ j := fun h => hj (h ▸ hk)
    rw [Metadata.value?, Metadata.stored_assign, if_neg hne, Metadata.value?]
  cases c with
  | title | artist | album | genre | trackNumber => exact assigned (by decide) _
  | stop | trackLength | playlistPosition | playlistCount => cases hr
  | init | start | reset | update | exit | mainPlaylist => rfl

namespace Action

def describesTrack : Action → Bool
  | .line t =>
    match Command.read t with
    | .ok c => c.describesTrack
    | .error _ => false
  | _ => false

def refreshes (settings : Settings) : Action → Bool
  | .line t =>
    match Command.read t with
    | .ok c => c.refreshes
    | .error _ => false
  | .refresh => true
  | .reconfigure s =>
    decide (s.services.ps.style ≠ settings.services.ps.style)
      || decide (s.services.rt.style ≠ settings.services.rt.style)
  | .tick _ | .cycle => false

theorem value?_revise {settings : Settings} {a : Action} (ha : a.refreshes settings = false)
    (m : Metadata) {k : Field} (hk : k ∈ Field.refreshed) :
    (a.revise m).value? k = m.value? k := by
  cases a with
  | line t =>
    simp only [refreshes, revise] at ha ⊢
    cases hc : Command.read t with
    | error _ => rfl
    | ok c => exact c.value?_revise (by simpa [hc] using ha) m hk
  | tick | refresh | reconfigure | cycle => rfl

theorem revise_of_not_describesTrack {settings : Settings} {a : Action}
    (ha : a.refreshes settings = false) (hd : a.describesTrack = false) (m : Metadata) :
    a.revise m = m := by
  cases a with
  | line t =>
    simp only [refreshes, describesTrack, revise] at ha hd ⊢
    cases hc : Command.read t with
    | error _ => rfl
    | ok c =>
      exact c.revise_of_not_describesTrack (by simpa [hc] using ha) (by simpa [hc] using hd) m
  | tick | refresh | reconfigure | cycle => rfl

end Action

namespace Cache

/-- A cache that holds what is read from one style holds what is read from the next. -/
theorem template_update {c : Cache} {old : Text} (h : c.template = Template.ofStyle old)
    (style : Text) : (c.update style).1.template = Template.ofStyle style := by
  by_cases hs : style = c.template.source
  · rw [update, if_pos hs, hs, h]
    rfl
  · rw [update, if_neg hs]

theorem updated_eq {c : Cache} {old : Text} (h : c.template = Template.ofStyle old)
    (style : Text) : (c.update style).2 = decide (style ≠ old) := by
  have hsource : c.template.source = old := by
    rw [h]
    rfl
  by_cases hs : style = old <;> simp [update, hsource, hs]

end Cache

namespace Display

def Styled (d : Display) : Prop :=
  ∀ s, d.templates.get s = Template.ofStyle (d.settings.services.get s).style

def Shows (d : Display) (m : Metadata) : Prop :=
  ∀ s, d.lines.get s = (Template.ofStyle (d.settings.services.get s).style).evaluate m

theorem Styled.shows_refresh {d : Display} (h : d.Styled) : d.refresh.Shows d.metadata := by
  intro s
  rw [refresh, ← h s]
  cases s <;> rfl

end Display

namespace Engine

variable {τ : Type}

theorem restyles_eq {e : Engine τ} (h : e.display.Styled) (s : Settings) :
    e.restyles s = (Action.reconfigure s).refreshes e.settings := by
  rw [restyles, Cache.updated_eq (h .ps), Cache.updated_eq (h .rt)]
  rfl

theorem styled_configured {e : Engine τ} (h : e.display.Styled) (s : Settings) :
    (e.configured s).Styled := by
  intro service
  cases service with
  | ps => exact Cache.template_update (h .ps) _
  | rt => exact Cache.template_update (h .rt) _

/-- Without a new style the lines stay, and they are still those of the styles. -/
theorem shows_configured {e : Engine τ} {m : Metadata} {s : Settings}
    (hs : (Action.reconfigure s).refreshes e.settings = false) (h : e.display.Shows m) :
    (e.configured s).Shows m := by
  have hstyles : s.services.ps.style = e.settings.services.ps.style ∧
      s.services.rt.style = e.settings.services.rt.style := by
    simpa [Action.refreshes] using hs
  intro service
  cases service with
  | ps =>
    change e.display.lines.get .ps = (Template.ofStyle s.services.ps.style).evaluate m
    rw [hstyles.1]
    exact h .ps
  | rt =>
    change e.display.lines.get .rt = (Template.ofStyle s.services.rt.style).evaluate m
    rw [hstyles.2]
    exact h .rt

def prepared (e : Engine τ) : Action → Display
  | .reconfigure s => e.configured s
  | a => e.display.withMetadata (a.revise e.metadata)

theorem metadata_prepared (e : Engine τ) (a : Action) :
    (e.prepared a).metadata = a.revise e.metadata := by
  cases a <;> rfl

theorem styled_prepared {e : Engine τ} (h : e.display.Styled) (a : Action) :
    (e.prepared a).Styled := by
  cases a with
  | reconfigure s => exact styled_configured h s
  | line | tick | refresh | cycle => exact h

theorem shows_prepared {e : Engine τ} {m : Metadata} {a : Action}
    (ha : a.refreshes e.settings = false) (h : e.display.Shows m) : (e.prepared a).Shows m := by
  cases a with
  | reconfigure s => exact shows_configured ha h
  | line | tick | refresh | cycle => exact h

variable [Transmitter τ]

theorem display_act {e : Engine τ} (h : e.display.Styled) (a : Action) :
    (e.act a).1.display =
      if a.refreshes e.settings then (e.prepared a).refresh else e.prepared a := by
  cases a with
  | line t =>
    cases hc : Command.read t with
    | ok c =>
      simp only [act, prepared, Action.revise, Action.refreshes, handleLine_ok hc, hc]
      exact display_apply e c
    | error err =>
      simp only [act, prepared, Action.revise, Action.refreshes, engine_handleLine_error hc, hc]
      rfl
  | tick s => exact display_tick e s
  | refresh => rfl
  | reconfigure s =>
    rw [act, display_reconfigure, restyles_eq h]
    rfl
  | cycle => exact display_cycleTransmitter e

theorem styled_act {e : Engine τ} (h : e.display.Styled) (a : Action) :
    (e.act a).1.display.Styled := by
  rw [display_act h]
  split <;> exact styled_prepared h a

theorem metadata_act {e : Engine τ} (h : e.display.Styled) (a : Action) :
    (e.act a).1.metadata = a.revise e.metadata := by
  change (e.act a).1.display.metadata = _
  rw [display_act h, ← metadata_prepared]
  split <;> rfl

/-- An engine whose lines are those for the metadata `m`, taken before the actions `since`. -/
structure Snapshot (e : Engine τ) (m : Metadata) (since : List Action) : Prop where
  styled : e.display.Styled
  shows : e.display.Shows m
  agrees : ∀ k ∈ Field.refreshed, m.value? k = e.metadata.value? k
  same : (∀ a ∈ since, a.describesTrack = false) → m = e.metadata

omit [Transmitter τ] in
theorem Snapshot.of_shows {e : Engine τ} (hs : e.display.Styled)
    (h : e.display.Shows e.metadata) : Snapshot e e.metadata [] :=
  ⟨hs, h, fun _ _ => rfl, fun _ => rfl⟩

theorem snapshot_ofSettings (s : Settings) (transmitter : τ) :
    Snapshot (ofSettings s transmitter).1 (ofSettings s transmitter).1.metadata [] := by
  have hs : Display.Styled ⟨s, .empty, s.services.map (Template.ofStyle ·.style), ⟨[], []⟩⟩ := by
    intro service
    cases service <;> rfl
  apply Snapshot.of_shows
  · rw [display_ofSettings]
    exact hs
  · rw [display_ofSettings]
    exact hs.shows_refresh

theorem Snapshot.act_refreshes {e : Engine τ} {m : Metadata} {since : List Action}
    (h : Snapshot e m since) {a : Action} (ha : a.refreshes e.settings = true) :
    Snapshot (e.act a).1 (e.act a).1.metadata [] := by
  apply of_shows (styled_act h.styled a)
  have hm : (e.act a).1.metadata = (e.prepared a).metadata := by
    rw [metadata_act h.styled, metadata_prepared]
  rw [display_act h.styled, if_pos ha, hm]
  exact (styled_prepared h.styled a).shows_refresh

theorem Snapshot.act {e : Engine τ} {m : Metadata} {since : List Action}
    (h : Snapshot e m since) {a : Action} (ha : a.refreshes e.settings = false) :
    Snapshot (e.act a).1 m (since ++ [a]) where
  styled := styled_act h.styled a
  shows := by
    rw [display_act h.styled, ha]
    exact shows_prepared ha h.shows
  agrees k hk := by
    rw [metadata_act h.styled, Action.value?_revise ha _ hk]
    exact h.agrees k hk
  same hd := by
    have hlast : a.describesTrack = false := hd a (by simp)
    rw [metadata_act h.styled, Action.revise_of_not_describesTrack ha hlast]
    exact h.same fun b hb => hd b (by simp [hb])

end Engine

namespace Step

variable {τ : Type} [Transmitter τ]

def Refreshed (s : Step τ) (before : List Action) : Prop :=
  before = [] ∨ ∃ earlier a, before = earlier ++ [a] ∧
    a.refreshes (s.run earlier).1.settings = true

def Unrefreshed (s : Step τ) (since : List Action) : Prop :=
  ∀ early a late, since = early ++ a :: late → a.refreshes (s.run early).1.settings = false

theorem Unrefreshed.nil (s : Step τ) : s.Unrefreshed [] := by
  simp [Unrefreshed]

theorem Unrefreshed.concat {s : Step τ} {since : List Action} (h : s.Unrefreshed since)
    {a : Action} (ha : a.refreshes (s.run since).1.settings = false) :
    s.Unrefreshed (since ++ [a]) := by
  intro early b late hsplit
  rcases List.eq_nil_or_concat late with rfl | ⟨late, c, rfl⟩
  · obtain ⟨rfl, hlast⟩ := List.append_inj' hsplit rfl
    cases hlast
    exact ha
  · rw [List.concat_eq_append, ← List.cons_append, ← List.append_assoc] at hsplit
    exact h early b late (List.append_inj' hsplit rfl).1

/-- A run shows the snapshot of its last refresh. -/
theorem exists_snapshot {s : Step τ} (h : s.1.Snapshot s.1.metadata []) (actions : List Action) :
    ∃ before since, actions = before ++ since ∧ s.Refreshed before ∧
      (s.run before).Unrefreshed since ∧
      (s.run actions).1.Snapshot (s.run before).1.metadata since := by
  induction actions using List.reverseRecOn with
  | nil => exact ⟨[], [], rfl, .inl rfl, Unrefreshed.nil _, h⟩
  | append_singleton actions a ih =>
    obtain ⟨before, since, rfl, hb, hs, hsnap⟩ := ih
    rw [engine_run_concat]
    -- A refresh starts a new snapshot; any other action only makes the last one older.
    cases ha : a.refreshes (s.run (before ++ since)).1.settings with
    | true =>
      refine ⟨before ++ since ++ [a], [], by simp, .inr ⟨_, a, rfl, ha⟩, Unrefreshed.nil _, ?_⟩
      rw [engine_run_concat]
      exact hsnap.act_refreshes ha
    | false =>
      refine ⟨before, since ++ [a], by simp, hb, hs.concat ?_, hsnap.act ha⟩
      rw [← run_append]
      exact ha

end Step

namespace Engine

variable {τ : Type} [Transmitter τ]

/-- After any run both services show their current styles for one metadata, that of the last
refresh. It agrees with the current metadata on the fields whose commands refresh, and on all
fields unless a value of the track was given since. -/
theorem lines_run (s : Settings) (transmitter : τ) (actions : List Action) :
    ∃ before since, actions = before ++ since ∧
      (ofSettings s transmitter).Refreshed before ∧
      ((ofSettings s transmitter).run before).Unrefreshed since ∧
      let m := ((ofSettings s transmitter).run before).1.metadata
      let e := ((ofSettings s transmitter).run actions).1
      (∀ service, e.lines service =
        (Template.ofStyle (e.settings.services.get service).style).evaluate m) ∧
      (∀ k ∈ [Field.trackLength, .playlistCount, .playlistPosition],
        m.value? k = e.metadata.value? k) ∧
      ((∀ a ∈ since, a.describesTrack = false) → ∀ k, m.value? k = e.metadata.value? k) := by
  obtain ⟨before, since, hsplit, hb, hs, hsnap⟩ :=
    Step.exists_snapshot (snapshot_ofSettings s transmitter) actions
  refine ⟨before, since, hsplit, hb, hs, fun service => ?_, hsnap.agrees, fun hd k => ?_⟩
  · rw [← lines_display]
    exact hsnap.shows service
  · rw [hsnap.same hd]

end Engine
end RadioText
