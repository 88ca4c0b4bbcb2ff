import RadioText.Proofs.Config.Loader
import RadioText.Proofs.Engine.Deeds
import RadioText.Proofs.Engine.Ending
import RadioText.Proofs.Framing

/-! What a logger writes fits the receiver. The engine hands the buffer size of its settings over to
the transmitter, and lines are cut to it there. So with settings that a loader gives out every
screen is full, every frame has something in it and fits its buffer, and every timer has a
period. -/
namespace RadioText

def Reloads.Built (r : Reloads) : Prop :=
  ∀ s, .ok s ∈ r.results ∨ r.later = .ok s → s.Built

theorem Settings.Valid.paced {s : Settings} (h : s.Valid) : s.Paced := by
  intro service
  rw [rates, Services.get_map]
  exact h.rate service

theorem Reloads.Built.paced {r : Reloads} (h : r.Built) : r.Paced :=
  fun s hs => (h s hs).valid.paced

/-- The settings in effect are those of before, or some that were read. -/
theorem Settings.after_eq_or_mem (s : Settings) (results : List (Except Text Settings)) :
    s.after results = s ∨ .ok (s.after results) ∈ results := by
  unfold after
  cases hlast : (results.filterMap Except.toOption).getLast? with
  | none => exact .inl rfl
  | some last =>
    obtain ⟨result, hresult, hok⟩ := List.mem_filterMap.1 (List.mem_of_getLast? hlast)
    cases result with
    | error reason => cases hok
    | ok settings =>
      cases hok
      exact .inr hresult

def Entry.record? (size : Nat) : Entry → Option Record
  | .call .startup .done => some .starting
  | .call .shutdown .done => some .stopping
  | .call (.show .ps line) .done => some (.screens (psScreens line))
  | .call (.show .rt line) .done => some (.frame (rtFrame line size))
  | _ => none

def Record.Fits (size : Nat) : Record → Prop
  | .screens ts => ∀ t ∈ ts, t.length = 8
  | .frame t => 1 ≤ t.length ∧ t.length ≤ size
  | .starting | .stopping => True

theorem Entry.fits_of_record {size : Nat} (hsize : 1 ≤ size) {entry : Entry} {r : Record}
    (h : entry.record? size = some r) : r.Fits size := by
  unfold record? at h
  split at h
  · cases h
    trivial
  · cases h
    trivial
  · cases h
    exact fun t ht => length_of_mem_psScreens ht
  · rename_i line
    cases h
    rw [Record.Fits, length_rtFrame]
    omega
  · cases h

namespace Logger

theorem rtSize_perform (l : Logger) (c : Call) :
    (l.perform c).2.rtSize = ((Entry.call c (l.perform c).1).rtSize?).getD l.rtSize := by
  cases c with
  | startup | shutdown | rtSize => rfl
  | «show» s line =>
    cases hactive : l.active <;> simp [perform, hactive, Entry.rtSize?]

/-- The buffer size matters for the lines that are shown only. -/
theorem records_perform (l : Logger) (c : Call) (size : Nat)
    (h : l.rtSize = size ∨ ∀ s, (Entry.call c (l.perform c).1).shows s = false) :
    (l.perform c).2.records.reverse = l.records.reverse ++
      [Entry.call c (l.perform c).1].filterMap (Entry.record? size) := by
  cases c with
  | startup | shutdown | rtSize => simp [perform, Entry.record?]
  | «show» s line =>
    cases hactive : l.active with
    | false => simp [perform, hactive, Entry.record?]
    | true =>
      have hsize : l.rtSize = size :=
        h.resolve_right fun hsilent => by simpa [perform, hactive, Entry.shows] using hsilent s
      cases s <;> simp [perform, hactive, Entry.record?, hsize]

end Logger

theorem rtSizes_cons (entry : Entry) (log : List Entry) :
    rtSizes (entry :: log) = entry.rtSize?.toList ++ rtSizes log := by
  cases h : entry.rtSize? <;> simp [rtSizes, h]

namespace Leads

/-- A logger has the buffer size it was given last. -/
theorem rtSize {l after : Logger} {log : List Entry} (h : Leads l log after) :
    after.rtSize = (rtSizes log).getLast?.getD l.rtSize := by
  induction h with
  | nil => rfl
  | @call l l' after c a log _ hperform _ ih =>
    change l.perform c = (a, l') at hperform
    have hsize := l.rtSize_perform c
    rw [hperform] at hsize
    rw [ih, hsize, rtSizes_cons]
    cases (Entry.call c a).rtSize? with
    | none => rfl
    | some n => simp [List.getLast?_cons]
  | rejected _ _ ih | kept _ _ ih => exact ih

/-- The log says what a logger writes, if no line is shown or the buffer keeps its size. -/
theorem records {l after : Logger} {log : List Entry} (h : Leads l log after) {size : Nat}
    (hsize : Silent log ∨ rtSizes log = [] ∧ l.rtSize = size) :
    after.records.reverse = l.records.reverse ++ log.filterMap (Entry.record? size) := by
  have htail {entry : Entry} {log : List Entry} (h : Silent (entry :: log)) : Silent log :=
    fun other hother => h other (List.mem_cons_of_mem _ hother)
  induction h with
  | nil => simp
  | @call l l' after c a log _ hperform _ ih =>
    change l.perform c = (a, l') at hperform
    have hhead := l.records_perform c size
    have hkept := l.rtSize_perform c
    rw [hperform] at hhead hkept
    rw [← List.singleton_append, List.filterMap_append, ← List.append_assoc]
    obtain hsilent | ⟨hnone, hl⟩ := hsize
    · rw [← hhead (.inr (hsilent _ List.mem_cons_self))]
      exact ih (.inl (htail hsilent))
    · rw [rtSizes_cons, List.append_eq_nil_iff, Option.toList_eq_nil_iff] at hnone
      rw [hnone.1, Option.getD_none, hl] at hkept
      rw [← hhead (.inl hl)]
      exact ih (.inr ⟨hnone.2, hkept⟩)
  | rejected _ _ ih | kept _ _ ih => exact ih (hsize.imp_left htail)

end Leads

namespace Engine

def Sized (e : Engine Logger) : Prop := e.transmitter.rtSize = e.settings.rtSize

/-- A deed that leaves the settings alone leaves the buffer size alone, and may show a line; one
that changes them shows none. -/
theorem deed_cases {τ : Type} [Transmitter τ] (e : Engine τ) (d : Deed) :
    e.Untouched (e.deed d) ∨ ∃ s, e.deed d = (e.reconfigure s).1 := by
  cases d with
  | tick s => exact .inl (e.untouched_tick s)
  | line t => exact .inl (e.untouched_handleLine t)
  | reread result =>
    cases result with
    | error reason => exact .inl ⟨rfl, fun _ => rfl, rfl⟩
    | ok s => exact .inr ⟨s, rfl⟩
  | cycle => exact .inl e.untouched_cycleTransmitter

theorem Sized.deed {e : Engine Logger} (h : e.Sized) (d : Deed) : (e.deed d).1.Sized := by
  have hleads := e.leads_deed d
  obtain hkept | ⟨s, heq⟩ := e.deed_cases d
  · rw [Sized, hleads.rtSize, hkept.rtSizes, hkept.settings]
    exact h
  · rw [heq] at hleads ⊢
    rw [Sized, hleads.rtSize, rtSizes_reconfigure, settings_reconfigure]
    rfl

theorem records_deed {e : Engine Logger} (h : e.Sized) (d : Deed) :
    (e.deed d).1.transmitter.records.reverse = e.transmitter.records.reverse ++
      (e.deed d).2.filterMap (Entry.record? e.settings.rtSize) := by
  refine (e.leads_deed d).records ?_
  obtain hkept | ⟨s, heq⟩ := e.deed_cases d
  · exact .inr ⟨hkept.rtSizes, h⟩
  · rw [heq]
    exact .inl (e.silent_reconfigure s)

/-- The logger writes what the entries say, for buffers of the size that the settings have then. -/
theorem records_afterwards {e : Engine Logger} (h : e.Sized) (deeds : List (Nat × Deed)) :
    (e.afterwards deeds).transmitter.records.reverse = e.transmitter.records.reverse ++
      (e.trace deeds).filterMap fun x => x.2.2.record? x.1.rtSize := by
  induction deeds generalizing e with
  | nil => exact (List.append_nil _).symm
  | cons d deeds ih =>
    have hrest := ih (h.deed d.2)
    rw [records_deed h, List.append_assoc] at hrest
    rw [trace, List.filterMap_append, List.filterMap_map]
    exact hrest

theorem settings_deed {τ : Type} [Transmitter τ] (e : Engine τ) (d : Deed) :
    (e.deed d).1.settings = e.settings.after d.result?.toList := by
  cases d with
  | tick s => exact (e.untouched_tick s).settings
  | line t => exact (e.untouched_handleLine t).settings
  | reread result => exact e.settings_reread result
  | cycle => exact e.untouched_cycleTransmitter.settings

/-- The settings of every entry are those of the start, or some that were read. -/
theorem built_trace {τ : Type} [Transmitter τ] {e : Engine τ} (h : e.settings.Built)
    {deeds : List (Nat × Deed)} (hread : ∀ s, .ok s ∈ results deeds → s.Built) :
    ∀ x ∈ e.trace deeds, x.1.Built := by
  induction deeds generalizing e with
  | nil => exact List.forall_mem_nil _
  | cons d deeds ih =>
    have hresults : results (d :: deeds) = d.2.result?.toList ++ results deeds := by
      cases hd : d.2.result? <;> simp [results, hd]
    rw [hresults] at hread
    have hnext : (e.deed d.2).1.settings.Built := by
      rw [e.settings_deed]
      obtain heq | hmem := e.settings.after_eq_or_mem d.2.result?.toList
      · rw [heq]
        exact h
      · exact hread _ (List.mem_append_left _ hmem)
    intro x hx
    obtain hx | hx := List.mem_append.1 hx
    · obtain ⟨entry, _, rfl⟩ := List.mem_map.1 hx
      exact h
    · exact ih hnext (fun s hs => hread s (List.mem_append_right _ hs)) x hx

end Engine

namespace Broadcast

/-- Configurations that a loader gives out have rates of a second or more, and one of the two buffer
sizes. A run on a logger with settings out of such configurations starts, whatever the draws, and
never meets a rate without a period. It comes of some deeds of the engine, and what the logger writes
are its startups and shutdowns and the lines that were shown, cut to screens of eight characters, or
to a frame of the buffer size that is in the engine's settings when the line is shown; and no frame is
empty. -/
theorem run_fits :
    (∀ (l : Config.Loader) c, l.build = .ok c →
      (∀ s, 1 ≤ (c.settings.services.get s).rate) ∧
        (c.settings.rtSize = 32 ∨ c.settings.rtSize = 64)) ∧
    ∀ (settings : Settings) (l : Logger) (reloads : Reloads) (chunks : List Chunk) (close : Nat)
      (draws : Draws), settings.Built → reloads.Built →
      (chunks.map Chunk.time ++ [close]).Pairwise (· ≤ ·) →
      let start := Engine.ofSettings settings l
      let arrivals := Feed.arrivals chunks close
      ∃ o, run start reloads arrivals close draws = some o ∧ o.ending ≠ .zeroPeriod ∧
        ∃ deeds, o.final.engine = start.1.afterwards deeds ∧
          results deeds = reloads.first o.final.reloadCount ∧
          let trace := start.1.trace deeds
          o.final.entries = start.2.map (0, ·) ++ trace.map Prod.snd ∧
          o.final.engine.transmitter.records.reverse = l.records.reverse ++
            trace.filterMap (fun x => x.2.2.record? x.1.rtSize) ∧
          ∀ x ∈ trace, ∀ r, x.2.2.record? x.1.rtSize = some r → r.Fits x.1.rtSize := by
  refine ⟨fun l c h => ⟨(Config.Loader.valid_of_build h).rate,
    (Config.Loader.valid_of_build h).rtSize⟩, ?_⟩
  intro settings l reloads chunks close draws hsettings hreloads hchunks start arrivals
  obtain ⟨b, hb, hpunctual, hbreloads, _⟩ :=
    exists_start settings hsettings.valid.paced l reloads draws
  have horder : (0 :: (arrivals.map Arrival.time ++ [close])).Pairwise (· ≤ ·) :=
    List.pairwise_cons.2 ⟨fun time _ => Nat.zero_le time, Feed.ordered_arrivals hchunks⟩
  have hrun : run start reloads arrivals close draws = some (b.handle close arrivals) := by
    rw [run, hb]
    rfl
  have hproceeds := proceeds_handle reliable_logger hpunctual (hbreloads ▸ hreloads.paced) horder
  obtain ⟨deeds, hengine, hresults, hentries⟩ := exists_deeds hrun
  have hsized : start.1.Sized := rfl
  have hbuilt : ∀ x ∈ start.1.trace deeds, x.1.Built :=
    Engine.built_trace (e := start.1) hsettings fun s hs =>
      hreloads s (reloads.mem_of_mem_first (hresults ▸ hs))
  refine ⟨_, hrun, hproceeds.ending, deeds, hengine, hresults, hentries, ?_, fun x hx r hr => ?_⟩
  · rw [hengine]
    exact Engine.records_afterwards hsized deeds
  · have hvalid := (hbuilt x hx).valid
    exact Entry.fits_of_record (by have := hvalid.rtSize; omega) hr

/-- A first reload fails; the next one, at the time of a tick, has a smaller buffer, which the line no
longer fits. Where the timers come first, the line that is shown then is cut to the larger buffer. -/
theorem run_fits_resized :
    let night : Text := "Silent Night, sung by the choir of the town".toList
    let loader (rtSize : Nat) : Config.Loader :=
      ({} : Config.Loader).withOverrides [([.key "rds".toList], .list none
        ([.boolean true, .text "Silent Night".toList, .integer 1, .text [], .text night, .integer 1,
          .integer rtSize, .text []].map (Config.Value.scalar none)))]
    let settings (rtSize : Nat) : Settings :=
      ⟨true, ⟨⟨"Silent Night".toList, 1, []⟩, ⟨night, 1, []⟩⟩, rtSize, .fppdStart, .never⟩
    let start := Engine.ofSettings (settings 64) (⟨32, false, []⟩ : Logger)
    let reloads : Reloads := ⟨[.error "gone".toList, .ok (settings 32)], .error []⟩
    let chunks : List Chunk := [⟨500, Utf8.encode "INIT\nUPDATE\n".toList⟩,
      ⟨1000, Utf8.encode "UPDATE\n".toList⟩]
    let arrivals := Feed.arrivals chunks 2500
    let written (draws : Draws) := (run start reloads arrivals 2500 draws).map fun o =>
      o.final.engine.transmitter.records.reverse
    let screens : Record := .screens ["Silent N".toList, "ight    ".toList]
    (∀ n ∈ [32, 64],
      (loader n).build.toOption.map (fun c => c.settings) = some (settings n)) ∧
      written .timersFirst = some [.starting, screens, .frame (night ++ ['\r']), screens,
        .frame (night.take 32)] ∧
      written (fun _ => .input) = some [.starting, screens, .frame (night.take 32), screens,
        .frame (night.take 32)] ∧
      ∀ draws, ∃ o deeds, run start reloads arrivals 2500 draws = some o ∧
        o.final.engine = start.1.afterwards deeds ∧
        o.final.engine.transmitter.records.reverse =
          (start.1.trace deeds).filterMap (fun x => x.2.2.record? x.1.rtSize) ∧
        ∀ x ∈ start.1.trace deeds, ∀ r, x.2.2.record? x.1.rtSize = some r → r.Fits x.1.rtSize := by
  intro night loader settings start reloads chunks arrivals written screens
  have hbuild : ∀ n ∈ [32, 64],
      (loader n).build.toOption.map (fun c => c.settings) = some (settings n) := by
    dsimp only [loader, settings, night]
    decide +kernel
  have hbuilt : ∀ n ∈ [32, 64], (settings n).Built := by
    intro n hn
    obtain ⟨c, hc, hsettings⟩ := Option.map_eq_some_iff.1 (hbuild n hn)
    cases hl : (loader n).build with
    | error err =>
      rw [hl] at hc
      cases hc
    | ok built =>
      rw [hl] at hc
      cases hc
      exact ⟨loader n, c, hl, hsettings⟩
  have hreloads : reloads.Built := by
    rintro s (hs | hs)
    · obtain rfl : s = settings 32 := by simpa [reloads] using hs
      exact hbuilt 32 (by decide)
    · cases hs
  refine ⟨hbuild, ?_, ?_, fun draws => ?_⟩
  · dsimp only [written, start, reloads, arrivals, chunks, settings, screens, night]
    decide +kernel
  · dsimp only [written, start, reloads, arrivals, chunks, settings, screens, night]
    decide +kernel
  · obtain ⟨o, hrun, _, deeds, hengine, _, _, hrecords, hfits⟩ := run_fits.2 (settings 64)
      ⟨32, false, []⟩ reloads chunks 2500 draws (hbuilt 64 (by decide)) hreloads (by simp [chunks])
    exact ⟨o, deeds, hrun, hengine, hrecords, hfits⟩

end Broadcast
end RadioText
