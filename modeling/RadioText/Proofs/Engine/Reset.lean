import RadioText.Proofs.Engine.Disabled
import RadioText.Proofs.Engine.History
import RadioText.Proofs.Engine.Rereading

/-! A reset from end to end. The settings are read again and the transmitter is cycled. Either of the
two can take the transmitter down, and the second brings it up again depending on what the first has
left; together they take it down once if it was on air, and then bring it up once if the settings in
effect want it up. -/
namespace RadioText

/-- A transmitter whose answers are true of its switches: also, a startup that is carried out brings
it on air. -/
structure Transmitter.Truthful (τ : Type) [Transmitter τ] : Prop
    extends Transmitter.Switches τ where
  up : ∀ t : τ, (Transmitter.perform t .startup).1 = .done →
    Transmitter.isActive (Transmitter.perform t .startup).2 = true

theorem truthful_recorder : Transmitter.Truthful Recorder := ⟨switches_recorder, fun _ _ => rfl⟩

theorem truthful_logger : Transmitter.Truthful Logger := ⟨switches_logger, fun _ _ => rfl⟩

def Entry.switches : Entry → Bool
  | .call c _ => c.switches
  | _ => false

def Obeyed (log : List Entry) : Prop := ∀ c answer, .call c answer ∈ log → answer = .done

theorem Obeyed.left {log more : List Entry} (h : Obeyed (log ++ more)) : Obeyed log :=
  fun c answer hmem => h c answer (List.mem_append_left _ hmem)

theorem Obeyed.right {log more : List Entry} (h : Obeyed (log ++ more)) : Obeyed more :=
  fun c answer hmem => h c answer (List.mem_append_right _ hmem)

variable {τ : Type} [Transmitter τ]

namespace Engine

/-- A step that takes the transmitter down if it was on air, then brings it up if it is to be up, and
switches it no further. A transmitter that comes up is shown both services from their first lines. -/
structure Restarted (e : Engine τ) (up : Bool) (r : Step τ) : Prop where
  switches : r.2.filter Entry.switches =
    (if e.isActive = true then [.call .shutdown .done] else []) ++
      if up = true then [.call .startup .done] else []
  isActive : r.1.isActive = up
  position : up = true → ∀ s, (r.1.rotation s).position = 0

theorem stopTransmitter_obeyed (hτ : Transmitter.Switches τ) {e : Engine τ}
    (h : Obeyed e.stopTransmitter.2) :
    e.stopTransmitter.2 = (if e.isActive = true then [.call .shutdown .done] else []) ∧
      e.stopTransmitter.1.isActive = false := by
  obtain ⟨hoff, hstop⟩ | ⟨hon, answer, t, hperform, hstop⟩ := e.stopTransmitter_cases
  · rw [hstop]
    exact ⟨by simp [hoff], hoff⟩
  · have hdone : answer = .done := h .shutdown answer (by simp [hstop])
    have hdown := hτ.shutdown e.transmitter ((congrArg Prod.fst hperform).trans hdone)
    rw [hperform] at hdown
    rw [hstop, hdone, if_pos hon]
    exact ⟨rfl, hdown⟩

theorem restarted_startTransmitter (hτ : Transmitter.Truthful τ) {e : Engine τ}
    (hoff : e.isActive = false) (h : Obeyed e.startTransmitter.2) :
    e.Restarted e.settings.enabled e.startTransmitter := by
  obtain ⟨hdisabled | hon, hstart⟩ | ⟨henabled, _, answer, t, hperform, hstart⟩ :=
    e.startTransmitter_cases
  · rw [hstart, hdisabled]
    exact ⟨by simp [hoff], hoff, nofun⟩
  · rw [hoff] at hon
    cases hon
  · have hdone : answer = .done := h .startup answer (by simp [hstart])
    have hup := hτ.up e.transmitter ((congrArg Prod.fst hperform).trans hdone)
    rw [hperform] at hup
    rw [hstart, henabled, hdone]
    refine ⟨by simp [hoff, Entry.switches, Call.switches], hup, fun _ s => ?_⟩
    cases s <;> rfl

theorem restarted_cycleTransmitter (hτ : Transmitter.Truthful τ) {e : Engine τ}
    (h : Obeyed e.cycleTransmitter.2) :
    e.Restarted (e.settings.enabled && (e.isActive || e.settings.start = .fppdStart))
      e.cycleTransmitter := by
  unfold cycleTransmitter Step.andThen at h ⊢
  obtain ⟨hstop, hoff⟩ := stopTransmitter_obeyed hτ.toSwitches h.left
  have hsettings := e.untouched_stopTransmitter.settings
  have hfilter : e.stopTransmitter.2.filter Entry.switches = e.stopTransmitter.2 := by
    rw [hstop]
    split <;> rfl
  simp only at h ⊢
  by_cases hup : e.isActive = true ∨ e.settings.start = .fppdStart
  · have hwanted : (e.isActive || decide (e.settings.start = .fppdStart)) = true := by
      simpa using hup
    rw [hsettings, hwanted, if_pos rfl] at h ⊢
    have hstart := restarted_startTransmitter hτ hoff h.right
    rw [hsettings] at hstart
    rw [Bool.and_true]
    refine ⟨?_, hstart.isActive, hstart.position⟩
    rw [List.filter_append, hstart.switches, hfilter, hstop, hoff]
    rfl
  · have hunwanted : (e.isActive || decide (e.settings.start = .fppdStart)) = false := by
      simpa using hup
    rw [hsettings, hunwanted, if_neg Bool.false_ne_true, Bool.and_false]
    refine ⟨?_, hoff, nofun⟩
    rw [List.append_nil, hfilter, hstop, if_neg Bool.false_ne_true, List.append_nil]

def reset (e : Engine τ) (result : Except Text Settings) : Step τ :=
  (e.reread result).andThen cycleTransmitter

theorem metadata_reread (e : Engine τ) (result : Except Text Settings) :
    (e.reread result).1.metadata = e.metadata := by
  cases result with
  | error reason => rfl
  | ok settings => exact e.metadata_reconfigure settings

theorem playlist_reread (e : Engine τ) (result : Except Text Settings) :
    (e.reread result).1.playlist = e.playlist := by
  cases result with
  | error reason => rfl
  | ok settings => exact e.playlist_reconfigure settings

/-- Reading the settings again takes a transmitter on air down, if they disable it now; or it leaves
the transmitter as it was. -/
theorem reread_cases (hτ : Transmitter.Switches τ) {e : Engine τ} {result : Except Text Settings}
    (h : Obeyed (e.reread result).2) :
    (e.isActive = true ∧ (e.settings.after [result]).enabled = false ∧
      (e.reread result).2.filter Entry.switches = [.call .shutdown .done] ∧
      (e.reread result).1.isActive = false) ∨
    ((e.reread result).2.filter Entry.switches = [] ∧
      (e.reread result).1.isActive = e.isActive) := by
  cases result with
  | error reason => exact .inr ⟨rfl, rfl⟩
  | ok settings =>
    have hactive : (e.adopted settings).isActive = e.isActive := by
      rw [isActive, transmitter_adopted]
      exact hτ.rtSize e.transmitter settings.rtSize
    simp only [reread, reconfigure_eq, Step.andThen] at h ⊢
    by_cases hdisabled : (e.settings.enabled && !settings.enabled) = true
    · rw [if_pos hdisabled] at h ⊢
      obtain ⟨hstop, hoff⟩ := stopTransmitter_obeyed hτ h.right
      rw [hstop, hactive]
      cases hon : e.isActive with
      | false => exact .inr ⟨rfl, hoff⟩
      | true =>
        have hnew : settings.enabled = false := by
          simpa using (Bool.and_eq_true_iff.1 hdisabled).2
        exact .inl ⟨rfl, hnew, rfl, hoff⟩
    · rw [if_neg hdisabled]
      exact .inr ⟨rfl, hactive⟩

/-- Whichever of the two took the transmitter down, one rule says what a reset makes of it. -/
theorem restarted_reset (hτ : Transmitter.Truthful τ) {e : Engine τ}
    {result : Except Text Settings} (h : Obeyed (e.reset result).2) :
    let n := e.settings.after [result]
    e.Restarted (n.enabled && (e.isActive || n.start = .fppdStart)) (e.reset result) := by
  intro n
  have hcycle := restarted_cycleTransmitter hτ (e := (e.reread result).1) h.right
  rw [settings_reread] at hcycle
  have hswitches : (e.reset result).2.filter Entry.switches =
      (e.reread result).2.filter Entry.switches ++
        (e.reread result).1.cycleTransmitter.2.filter Entry.switches :=
    List.filter_append ..
  obtain ⟨hon, hdisabled, hdown, hoff⟩ | ⟨hnone, hkept⟩ := reread_cases hτ.toSwitches h.left
  · have hstays : n.enabled = false := hdisabled
    rw [hdisabled, Bool.false_and] at hcycle
    rw [hstays, Bool.false_and]
    refine ⟨?_, hcycle.isActive, hcycle.position⟩
    rw [hswitches, hdown, hcycle.switches, hon, hoff]
    rfl
  · rw [hkept] at hcycle
    refine ⟨?_, hcycle.isActive, hcycle.position⟩
    rw [hswitches, hnone, hcycle.switches, hkept]
    rfl

theorem display_reset (e : Engine τ) (result : Except Text Settings) :
    (e.reset result).1.display = (e.reread result).1.display :=
  display_cycleTransmitter _

theorem playlist_reset (e : Engine τ) (result : Except Text Settings) :
    (e.reset result).1.playlist = e.playlist :=
  (playlist_cycleTransmitter _).trans (e.playlist_reread result)

end Engine

namespace Broadcast

theorem exists_timers_iff (channels : Services Channel) (now : Nat) :
    (∃ timers, timers? now channels = some timers) ↔ ∀ s, 0 < (channels.get s).rate := by
  constructor
  · rintro ⟨timers, htimers⟩ s
    by_contra hzero
    have hnone : Timer.start? now ((channels.get s).rate * millisPerSecond) = none := by
      rw [Nat.eq_zero_of_not_pos hzero]
      rfl
    cases s with
    | ps => simp [timers?, show Timer.start? now (channels.ps.rate * _) = none from hnone] at htimers
    | rt => simp [timers?, show Timer.start? now (channels.rt.rate * _) = none from hnone] at htimers
  · intro hpos
    have hrate (s : Service) : (channels.get s).rate = (channels.map Channel.rate).get s :=
      (Services.get_map _ _ s).symm
    obtain ⟨timers, htimers, _⟩ := exists_timers now hrate fun s => hrate s ▸ hpos s
    exact ⟨timers, htimers⟩

/-- Reading the settings again ends the run only if it brings another rate and one that is zero. -/
theorem reload_goesOn_iff (b : Broadcast τ) (now : Nat) (restart : Bool) :
    (b.reload now restart).2 = none ↔ ∀ new, b.reloads.next.1 = .ok new →
      (∃ s, new.rates.get s ≠ (b.engine.channels.get s).rate) → new.Paced := by
  cases hresult : b.reloads.next.1 with
  | error reason => simp [reload_error hresult]
  | ok settings =>
    have hchanged : (b.engine.reconfigure settings).2 = true ↔
        ∃ s, settings.rates.get s ≠ (b.engine.channels.get s).rate := by
      rw [Engine.reconfigure_eq_true_iff]
      exact exists_congr fun s => by rw [Settings.rates, Services.get_map]
    have hstart := exists_timers_iff (b.engine.reconfigure settings).1.1.channels now
    simp only [b.engine.rate_reconfigure settings] at hstart
    simp only [reload_ok hresult, Except.ok.injEq, forall_eq', ← hchanged]
    by_cases hother : (b.engine.reconfigure settings).2 = true
    · rw [if_pos hother]
      cases htimers : timers? now (b.read.record now
          (b.engine.reconfigure settings).1).engine.channels with
      | some timers =>
        have hpaced : settings.Paced := hstart.1 ⟨timers, htimers⟩
        simp [hpaced]
      | none =>
        have hpaced : ¬ settings.Paced := fun hpos => by
          obtain ⟨timers, hsome⟩ := hstart.2 hpos
          cases htimers.symm.trans hsome
        simp [hother, hpaced]
    · simp [hother]

/-- A reload that does not end the run does to the engine what a reset does. -/
theorem reload_reset {b : Broadcast τ} {now : Nat} (h : (b.reload now true).2 = none) :
    (b.reload now true).1.engine = (b.engine.reset b.reloads.next.1).1 ∧
      (b.reload now true).1.entries =
        b.entries ++ (b.engine.reset b.reloads.next.1).2.map (now, ·) := by
  have hcycled (r : Step τ) (timers : Services Timer) :
      (({ b.read.record now r with timers } : Broadcast τ).cycled now true).entries =
        b.entries ++ (r.andThen Engine.cycleTransmitter).2.map (now, ·) := by
    have hrecord : (({ b.read.record now r with timers } : Broadcast τ)).entries =
        b.entries ++ r.2.map (now, ·) := b.read.entries_record now r
    rw [cycled, if_pos rfl, entries_record, hrecord, List.append_assoc, ← List.map_append]
    rfl
  obtain ⟨reason, hresult, heq⟩ | ⟨settings, hresult, heq | ⟨timers, _, heq⟩⟩ :=
    b.reload_cases now true
  · rw [heq, hresult]
    exact ⟨rfl, hcycled (b.engine, [.kept reason]) b.timers⟩
  · rw [heq] at h
    cases h
  · rw [heq, hresult]
    exact ⟨rfl, hcycled (b.engine.reconfigure settings).1 timers⟩

/-- A line that resets is followed by a reload, and does nothing else. -/
theorem receive_reset_eq {a : Arrival} {t : Text} (hline : a.line = .ok t)
    (hreset : Command.read t = .ok .reset) (b : Broadcast τ) :
    b.receive a = (b.turnTo a.time).reload a.time true := by
  rw [receive_ok hline, Engine.handleLine_ok hreset]
  rfl

/-- A line that resets, on whatever broadcast and whatever comes of reading the settings again. The
run goes on behind it unless the settings bring another rate and one of theirs is zero, for which
there is no timer. If it goes on and no call to the transmitter fails, then the transmitter is taken
down if it was on air, and brought up again if the settings now in effect enable it and it was on air
or is to be up with the daemon; nothing else switches it, it is on air afterwards if it was brought
up, and both services then start over. Metadata and playlist stay; if the settings could not be read,
so do the ones in effect and the lines of both services. -/
theorem receive_reset (hτ : Transmitter.Truthful τ) (b : Broadcast τ) {a : Arrival} {t : Text}
    (hline : a.line = .ok t) (hreset : Command.read t = .ok .reset) :
    let before := b.turnTo a.time
    let e := before.engine
    let result := before.reloads.next.1
    let n := e.settings.after [result]
    let up : Bool := n.enabled && (e.isActive || n.start = .fppdStart)
    let after := (b.receive a).1
    ((b.receive a).2 = none ↔ ∀ new, result = .ok new →
      (∃ s, new.rates.get s ≠ (e.channels.get s).rate) → new.Paced) ∧
    ((b.receive a).2 = none → ∃ log,
      after.entries = before.entries ++ log.map (a.time, ·) ∧
      (Obeyed log →
        log.filter Entry.switches = (if e.isActive = true then [.call .shutdown .done] else []) ++
          (if up = true then [.call .startup .done] else []) ∧
        after.engine.isActive = up ∧
        (up = true → ∀ s, (after.engine.rotation s).position = 0)) ∧
      after.engine.settings = n ∧ after.engine.metadata = e.metadata ∧
      after.engine.playlist = e.playlist ∧
      ∀ reason, result = .error reason →
        after.engine.settings = e.settings ∧ ∀ s, after.engine.lines s = e.lines s) := by
  intro before e result n up after
  have hreceive : b.receive a = before.reload a.time true := receive_reset_eq hline hreset b
  refine ⟨by rw [hreceive]; exact before.reload_goesOn_iff a.time true, fun hnone => ?_⟩
  obtain ⟨hengine, hentries⟩ := reload_reset (hreceive ▸ hnone)
  rw [← hreceive] at hengine hentries
  have hdisplay : after.engine.display = (e.reread result).1.display :=
    (congrArg Engine.display hengine).trans (e.display_reset result)
  have hsettings : after.engine.settings = n :=
    (congrArg Display.settings hdisplay).trans (e.settings_reread result)
  refine ⟨_, hentries, fun hobeyed => ?_, hsettings,
    (congrArg Display.metadata hdisplay).trans (e.metadata_reread result), ?_, ?_⟩
  · obtain ⟨hswitches, hactive, hposition⟩ := Engine.restarted_reset hτ hobeyed
    rw [← hengine] at hactive hposition
    exact ⟨hswitches, hactive, hposition⟩
  · exact (congrArg Engine.playlist hengine).trans (e.playlist_reset result)
  · intro reason hreason
    refine ⟨?_, fun s => ?_⟩
    · rw [hsettings]
      change e.settings.after [result] = e.settings
      rw [hreason]
      rfl
    · rw [← Engine.lines_display, hdisplay, hreason]
      exact e.lines_display s

/-- In the middle of the lines: settings that cannot be read, or settings that disable the engine. -/
theorem receive_reset_midway :
    let settings (enabled : Bool) : Settings :=
      ⟨enabled, ⟨⟨"a|b".toList, 4, []⟩, ⟨"c".toList, 8, []⟩⟩, 64, .playlistStart, .never⟩
    let e : Engine Recorder := (((Engine.ofSettings (settings true) {}).1.apply .start).1.1.tick .ps).1
    let b (result : Except Text Settings) : Broadcast Recorder :=
      ⟨e, ⟨⟨4000, 4000, by decide⟩, ⟨8000, 8000, by decide⟩⟩, ⟨[], result⟩, 0, .timersFirst, []⟩
    let a : Arrival := ⟨3000, Utf8.encode "RESET\n".toList⟩
    let failed := (b (.error [])).receive a
    let off := (b (.ok (settings false))).receive a
    (e.isActive = true ∧ (e.rotation .ps).position = 1) ∧
      (failed.2 = none ∧ failed.1.entries =
        [.kept [], .call .shutdown .done, .call .startup .done].map (3000, ·)) ∧
      failed.1.engine.isActive = true ∧
      (∀ s, (failed.1.engine.rotation s).position = 0 ∧
        failed.1.engine.lines s = e.lines s) ∧
      (off.2 = none ∧ off.1.entries =
        [.call (.rtSize 64) .done, .call .shutdown .done].map (3000, ·)) ∧
      off.1.engine.isActive = false := by
  intro settings e b a failed off
  have hline : a.line = .ok "RESET".toList := by decide +kernel
  have hread : Command.read "RESET".toList = .ok .reset := by decide +kernel
  have hbefore (result : Except Text Settings) : (b result).turnTo a.time = (b result).turn :=
    turnTo_of_input (pick_of_lt fun
      | .ps => (by decide : 3000 < 4000)
      | .rt => (by decide : 3000 < 8000))
  have hpaced (enabled : Bool) : (settings enabled).Paced := by
    rintro (_ | _) <;> exact Nat.succ_pos _
  have hfailed : failed.1.entries =
      [.kept [], .call .shutdown .done, .call .startup .done].map (3000, ·) := by
    dsimp only [failed, b, a, e, settings]
    decide +kernel
  have hoff : off.1.entries = [.call (.rtSize 64) .done, .call .shutdown .done].map (3000, ·) := by
    dsimp only [off, b, a, e, settings]
    decide +kernel
  -- The log that is there is the only one that fits the entries.
  have hlog {log more : List Entry} (h : more.map ((3000 : Nat), ·) = [] ++ log.map (3000, ·)) :
      more = log :=
    List.map_injective_iff.2 (Prod.mk_right_injective 3000) h
  have hreset (result : Except Text Settings) :=
    receive_reset truthful_recorder (b result) hline hread
  simp only [hbefore] at hreset
  obtain ⟨hgoes, hend⟩ := hreset (.error [])
  have hnone : failed.2 = none := hgoes.2 nofun
  obtain ⟨log, hentries, hswitches, _, _, _, hkept⟩ := hend hnone
  obtain rfl := hlog (hfailed.symm.trans hentries)
  obtain ⟨_, hup, hposition⟩ := hswitches (by simp [Obeyed, or_imp])
  obtain ⟨hgoes, hend⟩ := hreset (.ok (settings false))
  have hnoneOff : off.2 = none := hgoes.2 fun new hnew _ => by
    obtain rfl : settings false = new := Except.ok.inj hnew
    exact hpaced false
  obtain ⟨log, hentries, hswitches, _⟩ := hend hnoneOff
  obtain rfl := hlog (hoff.symm.trans hentries)
  obtain ⟨_, hdown, _⟩ := hswitches (by simp [Obeyed, or_imp])
  have hmidway : e.isActive = true ∧ (e.rotation .ps).position = 1 := by
    dsimp only [e, settings]
    decide +kernel
  exact ⟨hmidway, ⟨hnone, hfailed⟩, hup, fun s => ⟨hposition rfl s, (hkept [] rfl).2 s⟩,
    ⟨hnoneOff, hoff⟩, hdown⟩

end Broadcast
end RadioText
