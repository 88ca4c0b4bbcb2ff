import Mathlib.Data.List.Basic
import RadioText.Proofs.Engine.Turns
import RadioText.Proofs.Event

/-! From one track to the next. While the lines of an event come in, with ticks between them, the
services go on with the lines they have; the last line of the event gives both of them new ones,
and these know nothing of the track before. -/
namespace RadioText

def Text.value? (t : Text) : Option Text := if t = [] then none else some t

namespace MediaEvent

def described (e : MediaEvent) (m : Metadata) : Metadata where
  title := if e.isBlank then none else e.title.oneLine.value?
  artist := if e.isBlank then none else e.artist.oneLine.value?
  album := e.album.oneLine.value?
  genre := e.genre.oneLine.value?
  trackNumber := if e.track = 0 then none else some (Decimal.write e.track.toNat)
  trackLength := if e.length = 0 then none else some (RadioText.trackLength e.length)
  playlistCount := m.playlistCount
  playlistPosition := m.playlistPosition

theorem foldl_revise (e : MediaEvent) (m : Metadata) :
    e.commands.foldl Command.revise m = e.described m := by
  cases hb : e.isBlank <;>
    simp [commands, hb, Command.revise, Metadata.set, Metadata.assign, Metadata.setTrackNumber,
      Metadata.setCounter, Metadata.setTrackLength, described, Text.value?]

/-- The length comes last, and the other commands refresh nothing. -/
theorem exists_commands_eq (e : MediaEvent) :
    ∃ values, e.commands = values ++ [.trackLength e.length] ∧
      ∀ c ∈ values, c.describesTrack = true := by
  refine ⟨e.commands.dropLast, rfl, fun c hc => ?_⟩
  simp only [commands, List.dropLast_cons_cons, List.dropLast_singleton, List.mem_cons,
    List.not_mem_nil, or_false] at hc
  obtain rfl | rfl | rfl | rfl | rfl := hc <;> rfl

theorem read_write {e : MediaEvent} {c : Command} (h : c ∈ e.commands) :
    Command.read c.write = .ok c :=
  PlayerEvent.read_write (e := .media e) h

theorem read_write_trackLength (e : MediaEvent) :
    Command.read (Command.trackLength e.length).write = .ok (.trackLength e.length) :=
  e.read_write (by simp [commands])

end MediaEvent

def Entry.shown? (s : Service) : Entry → Option Text
  | .call (.show s' line) _ => if s' = s then some line else none
  | _ => none

def shownTexts (s : Service) (log : List Entry) : List Text := log.filterMap (Entry.shown? s)

theorem shownTexts_append (s : Service) (log more : List Entry) :
    shownTexts s (log ++ more) = shownTexts s log ++ shownTexts s more :=
  List.filterMap_append

variable {τ : Type} [Transmitter τ]

inductive Action.Quiet : Action → Prop
  | tick (s : Service) : Quiet (.tick s)
  | describesTrack {t : Text} {c : Command} (hc : Command.read t = .ok c)
      (h : c.describesTrack = true) : Quiet (.line t)

namespace Engine

def offers (s : Service) (e : Engine τ) : List Text :=
  if e.lines s = [] then [(e.settings.services.get s).fallback] else e.lines s

omit [Transmitter τ] in
theorem turn_mem_offers (s : Service) (e : Engine τ) (k : Nat) : e.turn s k ∈ e.offers s := by
  by_cases hl : e.lines s = []
  · simp [turn, turnText, offers, hl]
  · have hlt : k % (e.lines s).length < (e.lines s).length :=
      Nat.mod_lt _ (List.length_pos_iff.2 hl)
    simp [turn, turnText, offers, hl, List.getElem?_eq_getElem hlt]

structure Alike (e e' : Engine τ) : Prop where
  settings : e'.settings = e.settings
  playlist : e'.playlist = e.playlist
  lines : ∀ s, e'.lines s = e.lines s

omit [Transmitter τ] in
theorem Alike.turn_eq {e e' : Engine τ} (h : e.Alike e') (s : Service) : e'.turn s = e.turn s := by
  funext k
  rw [turn, turn, h.settings, h.lines]

theorem alike_tick (e : Engine τ) (s : Service) : e.Alike (e.tick s).1 := by
  have hdisplay := display_tick e s
  refine ⟨congrArg Display.settings hdisplay, ?_, fun s' => ?_⟩
  · unfold tick
    split <;> rfl
  · rw [← lines_display, hdisplay, lines_display]

end Engine

namespace Action.Quiet

theorem alike {a : Action} (h : a.Quiet) (e : Engine τ) : e.Alike (e.act a).1 := by
  cases h with
  | tick s => exact e.alike_tick s
  | describesTrack hc h =>
    rw [Engine.act_of_describesTrack hc h]
    exact ⟨rfl, rfl, fun _ => rfl⟩

theorem not_startsOver {a : Action} (h : a.Quiet) (e : Engine τ) : ¬ e.StartsOver a := by
  cases h with
  | tick s =>
    rintro (hr | hup)
    · cases hr
    · exact e.startup_not_mem_tick s .done hup
  | describesTrack hc h => exact (Engine.Bystander.describesTrack (s := .ps) hc h).not_startsOver

theorem shows {a : Action} (h : a.Quiet) {e : Engine τ} {entry : Entry}
    (hentry : entry ∈ (e.act a).2) : ∃ s line answer, entry = .call (.show s line) answer := by
  cases h with
  | tick s =>
    rw [Engine.act] at hentry
    cases hactive : e.isActive with
    | false =>
      rw [Engine.tick_of_inactive hactive] at hentry
      cases hentry
    | true =>
      obtain ⟨answer, _, _, htick⟩ := Engine.tick_of_active hactive s
      rw [htick] at hentry
      exact ⟨s, _, answer, List.mem_singleton.1 hentry⟩
  | describesTrack hc h =>
    rw [Engine.act_of_describesTrack hc h] at hentry
    cases hentry

theorem shownTexts {a : Action} (h : a.Quiet) {s : Service} {e : Engine τ} {k : Nat}
    (hk : e.AtTurn s k) :
    shownTexts s (e.act a).2 = (List.range' k (e.turnsOf s a)).map (e.turn s) := by
  cases h with
  | tick s' =>
    rw [Engine.act]
    cases hactive : e.isActive with
    | false => simp [Engine.tick_of_inactive hactive, Engine.turnsOf, hactive, RadioText.shownTexts]
    | true =>
      obtain ⟨answer, _, _, htick⟩ := Engine.tick_of_active hactive s'
      by_cases hs : s' = s
      · subst hs
        simp [htick, Engine.turnsOf, Action.ticks, hactive, RadioText.shownTexts, Entry.shown?,
          hk.current]
      · simp [htick, Engine.turnsOf, Action.ticks, hactive, RadioText.shownTexts, Entry.shown?, hs]
  | describesTrack hc h =>
    rw [Engine.act_of_describesTrack hc h]
    rfl

end Action.Quiet

namespace Engine

theorem alike_run {e : Engine τ} {actions : List Action} (h : ∀ a ∈ actions, a.Quiet) :
    e.Alike (e.run actions).1 := by
  induction actions generalizing e with
  | nil => exact ⟨rfl, rfl, fun _ => rfl⟩
  | cons a actions ih =>
    have hfirst := (h a List.mem_cons_self).alike e
    have hrest := ih (e := (e.act a).1) fun b hb => h b (List.mem_cons_of_mem _ hb)
    rw [run_cons]
    exact ⟨hrest.settings.trans hfirst.settings, hrest.playlist.trans hfirst.playlist,
      fun s => (hrest.lines s).trans (hfirst.lines s)⟩

theorem keepsTurns_of_quiet {e : Engine τ} {actions : List Action} (h : ∀ a ∈ actions, a.Quiet) :
    e.KeepsTurns actions := by
  induction actions generalizing e with
  | nil => trivial
  | cons a actions ih =>
    exact ⟨(h a List.mem_cons_self).not_startsOver e,
      ih fun b hb => h b (List.mem_cons_of_mem _ hb)⟩

theorem shows_run {e : Engine τ} {actions : List Action} (h : ∀ a ∈ actions, a.Quiet)
    {entry : Entry} (hentry : entry ∈ (e.run actions).2) :
    ∃ s line answer, entry = .call (.show s line) answer := by
  induction actions generalizing e with
  | nil => cases hentry
  | cons a actions ih =>
    rw [run_cons] at hentry
    obtain hentry | hentry := List.mem_append.1 hentry
    · exact (h a List.mem_cons_self).shows hentry
    · exact ih (fun b hb => h b (List.mem_cons_of_mem _ hb)) hentry

theorem isActive_run (hsteady : Transmitter.Steady τ) {e : Engine τ} {actions : List Action}
    (h : ∀ a ∈ actions, a.Quiet) : (e.run actions).1.isActive = e.isActive :=
  (Step.leads_run (s := (e, [])) (.nil _) actions).isActive hsteady fun _ => shows_run h

theorem shownTexts_run {s : Service} {e : Engine τ} {k : Nat} (hk : e.AtTurn s k)
    {actions : List Action} (h : ∀ a ∈ actions, a.Quiet) :
    shownTexts s (e.run actions).2 = (List.range' k (e.turns s actions)).map (e.turn s) := by
  induction actions generalizing e k with
  | nil => rfl
  | cons a actions ih =>
    have ha := h a List.mem_cons_self
    have hrest := ih (hk.act (ha.not_startsOver e)) fun b hb => h b (List.mem_cons_of_mem _ hb)
    rw [run_cons, shownTexts_append, ha.shownTexts hk, hrest, (ha.alike e).turn_eq s, turns,
      ← List.map_append]
    congr 1
    simp

theorem metadata_run {e : Engine τ} (h : e.display.Styled) (actions : List Action) :
    (e.run actions).1.metadata = actions.foldl Action.revise e.metadata := by
  induction actions generalizing e with
  | nil => rfl
  | cons a actions ih =>
    rw [run_cons, ih (styled_act h a), metadata_act h]
    rfl

end Engine

def Action.isTick : Action → Bool
  | .tick _ => true
  | _ => false

theorem Action.foldl_revise_filter (actions : List Action) (m : Metadata) :
    (actions.filter fun a => !a.isTick).foldl revise m = actions.foldl revise m := by
  induction actions generalizing m with
  | nil => rfl
  | cons a actions ih => cases a <;> exact ih _

theorem MediaEvent.foldl_revise_lines (e : MediaEvent) (m : Metadata) :
    (e.lines.map Action.line).foldl Action.revise m = e.described m := by
  rw [← foldl_revise, lines, List.map_map, List.foldl_map]
  refine List.foldl_ext _ _ _ fun m c hc => ?_
  simp [Action.revise, read_write hc]

/-- The ticks of a run between other actions, the last of which is `last`. -/
theorem Action.exists_split {actions others : List Action} {last : Action}
    (h : (actions.filter fun a => !a.isTick) = others ++ [last]) :
    ∃ before after, actions = before ++ last :: after ∧
      (before.filter fun a => !a.isTick) = others ∧ ∀ a ∈ after, a.isTick = true := by
  obtain ⟨front, back, rfl, hfront, hback⟩ := List.filter_eq_append_iff.1 h
  obtain ⟨ticks, after, rfl, hticks, _, hafter⟩ := List.filter_eq_cons_iff.1 hback
  refine ⟨front ++ ticks, after, by simp, ?_, fun a ha => ?_⟩
  · rw [List.filter_append, hfront, List.filter_eq_nil_iff.2 hticks, List.append_nil]
  · simpa using List.filter_eq_nil_iff.1 hafter a ha

theorem Action.quiet_of_isTick {a : Action} (h : a.isTick = true) : a.Quiet := by
  cases a with
  | tick s => exact .tick s
  | _ => cases h

theorem Action.quiet_of_filter {actions : List Action} {values : List Command}
    (hread : ∀ c ∈ values, Command.read c.write = .ok c)
    (hvalues : ∀ c ∈ values, c.describesTrack = true)
    (h : (actions.filter fun a => !a.isTick) = values.map (.line ·.write)) :
    ∀ a ∈ actions, a.Quiet := by
  intro a ha
  cases htick : a.isTick with
  | true => exact quiet_of_isTick htick
  | false =>
    have hmem : a ∈ values.map (.line ·.write) := by
      rw [← h]
      exact List.mem_filter.2 ⟨ha, by simp [htick]⟩
    obtain ⟨c, hc, rfl⟩ := List.mem_map.1 hmem
    exact .describesTrack (hread c hc) (hvalues c hc)

/-- The lines of an event with ticks between them: a quiet run, the line with the length, ticks. -/
theorem MediaEvent.exists_split {m : MediaEvent} {actions : List Action}
    (h : (actions.filter fun a => !a.isTick) = m.lines.map .line) :
    ∃ before after, actions = before ++ .line (Command.trackLength m.length).write :: after ∧
      (∀ a ∈ before, a.Quiet) ∧ ∀ a ∈ after, a.isTick = true := by
  obtain ⟨values, hcommands, hvalues⟩ := m.exists_commands_eq
  have hread : ∀ c ∈ values, Command.read c.write = .ok c := fun c hc =>
    m.read_write (hcommands ▸ List.mem_append_left _ hc)
  have hlines : m.lines.map Action.line =
      values.map (.line ·.write) ++ [.line (Command.trackLength m.length).write] := by
    simp [MediaEvent.lines, hcommands, Function.comp_def]
  obtain ⟨before, after, rfl, hbefore, hafter⟩ := Action.exists_split (h.trans hlines)
  exact ⟨before, after, rfl, Action.quiet_of_filter hread hvalues hbefore, hafter⟩

namespace Engine

theorem shows_act_of_refreshes {e : Engine τ} (h : e.display.Styled) {a : Action}
    (ha : a.refreshes e.settings = true) : (e.act a).1.display.Shows (e.act a).1.metadata := by
  have hm : (e.act a).1.metadata = (e.prepared a).metadata := by
    rw [metadata_act h, metadata_prepared]
  rw [display_act h, if_pos ha, hm]
  exact (styled_prepared h a).shows_refresh

/-- A media event has taken over an engine. Every line of it is a command and lets the engine go on.
The track is all that of the event, and nothing else is changed; the transmitter was only given
lines to show. What was shown before the line with the length is from the lines of before; what is
shown after it are the lines of both styles for the new metadata, from the first one on. -/
structure TakesOver (m : MediaEvent) (e : Engine τ) (actions : List Action) : Prop where
  accepted : ∀ line ∈ m.lines, ∃ c, Command.read line = .ok c ∧
    ∀ e' : Engine τ, (e'.handleLine line).2 = .proceed
  metadata : (e.run actions).1.metadata = m.described e.metadata
  playlist : (e.run actions).1.playlist = e.playlist
  settings : (e.run actions).1.settings = e.settings
  calls : ∀ entry ∈ (e.run actions).2, ∃ s line answer, entry = .call (.show s line) answer
  isActive : Transmitter.Steady τ → (e.run actions).1.isActive = e.isActive
  shown : ∃ before after sent,
    actions = before ++ .line (Command.trackLength m.length).write :: after ∧
    (e.run actions).2 = (e.run before).2 ++ sent ∧
    ∀ s, (∀ text ∈ shownTexts s (e.run before).2, text ∈ e.offers s) ∧
      let style := e.settings.services.get s
      shownTexts s sent = (List.range (shownTexts s sent).length).map
        (turnText style.fallback ((Template.ofStyle style.style).evaluate (m.described e.metadata)))

theorem accepted_line {m : MediaEvent} {line : Text} (h : line ∈ m.lines) :
    ∃ c, Command.read line = .ok c ∧ ∀ e' : Engine τ, (e'.handleLine line).2 = .proceed := by
  obtain ⟨c, hc, rfl⟩ := List.mem_map.1 h
  refine ⟨c, m.read_write hc, fun e' => ?_⟩
  rw [handleLine_ok (m.read_write hc)]
  simp only [MediaEvent.commands, List.mem_cons, List.not_mem_nil, or_false] at hc
  obtain rfl | rfl | rfl | rfl | rfl | rfl := hc <;> rfl

structure Renewed (e e' : Engine τ) : Prop where
  settings : e'.settings = e.settings
  playlist : e'.playlist = e.playlist
  lines : ∀ s, e'.lines s =
    (Template.ofStyle (e.settings.services.get s).style).evaluate e'.metadata
  atTurn : ∀ s, e'.AtTurn s 0
  isActive : e'.isActive = e.isActive

theorem renewed_trackLength {e : Engine τ} (h : ∀ s, ∃ k, e.AtTurn s k) {t : Text} {n : UInt64}
    (ht : Command.read t = .ok (.trackLength n)) :
    (e.act (.line t)).2 = [] ∧ e.Renewed (e.act (.line t)).1 := by
  obtain ⟨_, hstyled, _, _⟩ := h .ps
  have hrefreshes : (Action.line t).refreshes e.settings = true := by
    simp [Action.refreshes, ht, Command.refreshes]
  have hact : e.act (.line t) =
      ((e.withMetadata (e.metadata.setTrackLength n)).refresh, []) := by
    rw [act, handleLine_ok ht]
    rfl
  refine ⟨by rw [hact], by rw [hact]; rfl, by rw [hact]; rfl, fun s => ?_, fun s => ?_,
    by rw [hact]; rfl⟩
  · have hlines := shows_act_of_refreshes hstyled hrefreshes s
    rw [lines_display] at hlines
    rw [hlines, hact]
    rfl
  · obtain ⟨k, hk⟩ := h s
    exact hk.startOver (.inl hrefreshes)

theorem Renewed.turn_eq {e e' : Engine τ} (h : e.Renewed e') (s : Service) :
    e'.turn s = turnText (e.settings.services.get s).fallback
      ((Template.ofStyle (e.settings.services.get s).style).evaluate e'.metadata) := by
  funext k
  rw [turn, h.settings, h.lines]

theorem metadata_run_of_isTick {e : Engine τ} (hs : e.display.Styled) {actions : List Action}
    (h : ∀ a ∈ actions, a.isTick = true) : (e.run actions).1.metadata = e.metadata := by
  rw [metadata_run hs, ← Action.foldl_revise_filter, List.filter_eq_nil_iff.2 (by simpa using h)]
  rfl

/-- A media event takes over an engine, whatever was done to the engine before and wherever ticks
come between the lines. -/
theorem takesOver_run (settings : Settings) (transmitter : τ) (earlier actions : List Action)
    (m : MediaEvent) (h : (actions.filter fun a => !a.isTick) = m.lines.map .line) :
    ((ofSettings settings transmitter).1.run earlier).1.TakesOver m actions := by
  have hturn (s : Service) := (atTurn_ofSettings settings transmitter s).exists_run earlier
  generalize ((ofSettings settings transmitter).1.run earlier).1 = e at hturn
  obtain ⟨_, hstyled, _, _⟩ := hturn .ps
  have hmetadata : (e.run actions).1.metadata = m.described e.metadata := by
    rw [metadata_run hstyled, ← Action.foldl_revise_filter, h, m.foldl_revise_lines]
  obtain ⟨before, after, rfl, hquiet, hafter⟩ := m.exists_split h
  have hticks : ∀ a ∈ after, a.Quiet := fun a ha => Action.quiet_of_isTick (hafter a ha)
  -- The line with the length renews the engine; on either side of it the run is quiet.
  have hbefore (s : Service) : ∃ k, (e.run before).1.AtTurn s k := (hturn s).elim fun k hk =>
    ⟨_, hk.run (keepsTurns_of_quiet hquiet)⟩
  obtain ⟨hsilent, hrenewed⟩ := renewed_trackLength hbefore m.read_write_trackLength
  generalize hlast : ((e.run before).1.act (.line (Command.trackLength m.length).write)).1 = e'
    at hrenewed
  have hrun : e.run (before ++ .line (Command.trackLength m.length).write :: after) =
      ((e'.run after).1, (e.run before).2 ++ (e'.run after).2) := by
    rw [run_concat, run_cons, hsilent, hlast, List.nil_append]
  have hsame := alike_run (e := e) hquiet
  have hrest := alike_run (e := e') hticks
  rw [hrun] at hmetadata
  have hnew : e'.metadata = m.described e.metadata := by
    rw [← hmetadata, metadata_run_of_isTick (hrenewed.atTurn .ps).styled hafter]
  have hearlier (s : Service) :
      ∀ text ∈ shownTexts s (e.run before).2, text ∈ e.offers s := by
    intro text htext
    obtain ⟨k, hk⟩ := hturn s
    rw [shownTexts_run hk hquiet] at htext
    obtain ⟨i, -, rfl⟩ := List.mem_map.1 htext
    exact e.turn_mem_offers s i
  have hlater (s : Service) :
      shownTexts s (e'.run after).2 = (List.range' 0 (e'.turns s after)).map
        (turnText (e.settings.services.get s).fallback
          ((Template.ofStyle (e.settings.services.get s).style).evaluate
            (m.described e.metadata))) := by
    rw [shownTexts_run (hrenewed.atTurn s) hticks, hrenewed.turn_eq, hnew, hsame.settings]
  exact
    { accepted := fun line hline => accepted_line hline
      metadata := by rw [hrun, hmetadata]
      playlist := by rw [hrun, hrest.playlist, hrenewed.playlist, hsame.playlist]
      settings := by rw [hrun, hrest.settings, hrenewed.settings, hsame.settings]
      calls := by
        intro entry hentry
        rw [hrun] at hentry
        obtain hentry | hentry := List.mem_append.1 hentry
        · exact shows_run hquiet hentry
        · exact shows_run hticks hentry
      isActive := by
        intro hsteady
        rw [hrun, isActive_run hsteady hticks, hrenewed.isActive, isActive_run hsteady hquiet]
      shown := by
        refine ⟨before, after, (e'.run after).2, rfl, by rw [hrun], fun s => ⟨hearlier s, ?_⟩⟩
        rw [hlater s]
        simp [List.range_eq_range'] }

/-- A pause takes over from a song, with a tick of each service after every line. The
transmitter takes no line of Program Service, and that does not take it off air. -/
theorem takesOver_run_pause :
    let service : ServiceSettings := ⟨"\x7bT\x7d".toList, 4, "off air".toList⟩
    let settings : Settings := ⟨true, ⟨service, service⟩, 64, .fppdStart, .never⟩
    let song : MediaEvent := { kind := "media".toList, title := "Song".toList, track := 3 }
    let pause : MediaEvent := { kind := "pause".toList, title := "Song".toList, length := 90 }
    let earlier := Action.line "INIT".toList :: song.lines.map Action.line
    let actions := pause.lines.flatMap fun l => [.line l, .tick .ps, .tick .rt]
    (actions.filter fun a => !a.isTick) = pause.lines.map .line ∧
      let e := ((ofSettings settings (⟨{}, { ps := true }⟩ : Faulty Recorder)).1.run earlier).1
      e.TakesOver pause actions ∧ (e.run actions).1.isActive = e.isActive := by
  intro service settings song pause earlier actions
  have hlines : (actions.filter fun a => !a.isTick) = pause.lines.map .line := by
    simp only [actions, List.filter_flatMap]
    exact List.map_eq_flatMap.symm
  have htakes := takesOver_run settings (⟨{}, { ps := true }⟩ : Faulty Recorder) earlier actions
    pause hlines
  exact ⟨hlines, htakes, htakes.isActive (steady_faulty steady_recorder)⟩

end Engine
end RadioText
