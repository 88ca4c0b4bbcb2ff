import RadioText.Proofs.Engine.Rereading

/-! A run as a list of deeds. Whatever the draws, a run over time is the engine ticking, handling
lines, reading its settings again and cycling its transmitter, in some order; what is logged are the
entries of these deeds, and each is made by an engine with certain settings. -/
namespace RadioText

inductive Deed
  | tick (s : Service)
  | line (t : Text)
  | reread (result : Except Text Settings)
  | cycle

def Deed.result? : Deed → Option (Except Text Settings)
  | .reread result => some result
  | _ => none

def results (deeds : List (Nat × Deed)) : List (Except Text Settings) :=
  deeds.filterMap fun d => d.2.result?

theorem results_append (deeds more : List (Nat × Deed)) :
    results (deeds ++ more) = results deeds ++ results more :=
  List.filterMap_append

variable {τ : Type} [Transmitter τ]

namespace Engine

def deed (e : Engine τ) : Deed → Step τ
  | .tick s => e.tick s
  | .line t => (e.handleLine t).1
  | .reread result => e.reread result
  | .cycle => e.cycleTransmitter

def afterwards (e : Engine τ) (deeds : List (Nat × Deed)) : Engine τ :=
  deeds.foldl (fun e d => (e.deed d.2).1) e

/-- The entries of some deeds with their times, each with the settings the engine has when it makes
the entry. -/
def trace (e : Engine τ) : List (Nat × Deed) → List (Settings × Nat × Entry)
  | [] => []
  | (now, d) :: deeds =>
    (e.deed d).2.map (fun entry => (e.settings, now, entry)) ++ (e.deed d).1.trace deeds

theorem afterwards_append (e : Engine τ) (deeds more : List (Nat × Deed)) :
    e.afterwards (deeds ++ more) = (e.afterwards deeds).afterwards more :=
  List.foldl_append

theorem trace_append (e : Engine τ) (deeds more : List (Nat × Deed)) :
    e.trace (deeds ++ more) = e.trace deeds ++ (e.afterwards deeds).trace more := by
  induction deeds generalizing e with
  | nil => rfl
  | cons d deeds ih =>
    rw [List.cons_append, trace, trace, ih, List.append_assoc]
    rfl

theorem leads_deed (e : Engine τ) (d : Deed) :
    Leads e.transmitter (e.deed d).2 (e.deed d).1.transmitter := by
  cases d with
  | tick s => exact e.leads_tick s
  | line t => exact e.leads_act (.line t)
  | reread result =>
    cases result with
    | error reason => exact .kept reason (.nil _)
    | ok settings => exact e.leads_reconfigure settings
  | cycle => exact e.leads_cycleTransmitter

/-- The entries lead from the transmitter of before to that of afterwards. -/
theorem leads_trace (e : Engine τ) (deeds : List (Nat × Deed)) :
    Leads e.transmitter ((e.trace deeds).map fun x => x.2.2) (e.afterwards deeds).transmitter := by
  induction deeds generalizing e with
  | nil => exact .nil _
  | cons d deeds ih =>
    have hlog : (e.trace (d :: deeds)).map (fun x => x.2.2) =
        (e.deed d.2).2 ++ ((e.deed d.2).1.trace deeds).map fun x => x.2.2 := by
      simp [trace, Function.comp_def]
    rw [hlog]
    exact (e.leads_deed d.2).append (ih _)

end Engine

namespace Broadcast

/-- `b'` comes from `b` by some deeds, and for these the next results of reading the settings again
are used up. -/
structure Does (b b' : Broadcast τ) (deeds : List (Nat × Deed)) : Prop where
  engine : b'.engine = b.engine.afterwards deeds
  entries : b'.entries = b.entries ++ (b.engine.trace deeds).map Prod.snd
  results : results deeds = b.reloads.first (results deeds).length
  reloads : b'.reloads = b.reloads.drop (RadioText.results deeds).length
  reloadCount : b'.reloadCount = b.reloadCount + (RadioText.results deeds).length

variable {b b' b'' : Broadcast τ} {deeds more : List (Nat × Deed)}

theorem Does.refl (b : Broadcast τ) : b.Does b [] :=
  ⟨rfl, (List.append_nil _).symm, rfl, rfl, rfl⟩

theorem Does.trans (h : b.Does b' deeds) (h' : b'.Does b'' more) : b.Does b'' (deeds ++ more) where
  engine := by rw [h'.engine, h.engine, Engine.afterwards_append]
  entries := by
    rw [h'.entries, h.entries, h.engine, Engine.trace_append, List.map_append, List.append_assoc]
  results := by
    rw [results_append, List.length_append, Reloads.first_add, ← h.results, ← h.reloads,
      ← h'.results]
  reloads := by
    rw [results_append, List.length_append, Reloads.drop_add, ← h.reloads, ← h'.reloads]
  reloadCount := by
    rw [results_append, List.length_append, h'.reloadCount, h.reloadCount, Nat.add_assoc]

theorem does_record (b : Broadcast τ) (now : Nat) {d : Deed} (h : d.result? = none) :
    b.Does (b.record now (b.engine.deed d)) [(now, d)] where
  engine := rfl
  entries := by simp [entries_record, Engine.trace]
  results := by simp [RadioText.results, h, Reloads.first]
  reloads := by simp [RadioText.results, h, Reloads.drop, record]
  reloadCount := by simp [RadioText.results, h, record]

theorem does_reread (b : Broadcast τ) (now : Nat) (timers : Services Timer) :
    b.Does { b.read.record now (b.engine.reread b.reloads.next.1) with timers }
      [(now, .reread b.reloads.next.1)] where
  engine := rfl
  entries := by
    have hread : b.read.entries = b.entries := rfl
    have hrecord := b.read.entries_record now (b.engine.reread b.reloads.next.1)
    simp only [Engine.trace, List.append_nil, List.map_map]
    exact hrecord
  results := rfl
  reloads := rfl
  reloadCount := rfl

theorem does_cycled (b : Broadcast τ) (now : Nat) (restart : Bool) :
    ∃ deeds, b.Does (b.cycled now restart) deeds := by
  cases restart with
  | false => exact ⟨[], .refl b⟩
  | true => exact ⟨_, b.does_record now (d := .cycle) rfl⟩

theorem does_reload (b : Broadcast τ) (now : Nat) (restart : Bool) :
    ∃ deeds, b.Does (b.reload now restart).1 deeds := by
  obtain ⟨reason, hresult, heq⟩ | ⟨settings, hresult, heq | ⟨timers, _, heq⟩⟩ :=
    b.reload_cases now restart
  · have hread := b.does_reread now b.timers
    rw [hresult] at hread
    obtain ⟨more, hcycled⟩ :=
      does_cycled (b.read.record now (b.engine, [.kept reason])) now restart
    rw [heq]
    exact ⟨_, hread.trans hcycled⟩
  · have hread := b.does_reread now b.timers
    rw [hresult] at hread
    rw [heq]
    exact ⟨_, hread⟩
  · have hread := b.does_reread now timers
    rw [hresult] at hread
    obtain ⟨more, hcycled⟩ := does_cycled
      { b.read.record now (b.engine.reconfigure settings).1 with timers } now restart
    rw [heq]
    exact ⟨_, hread.trans hcycled⟩

theorem does_turnTo (b : Broadcast τ) (time : Nat) : ∃ deeds, b.Does (b.turnTo time) deeds := by
  refine turnTo_invariant (P := fun b' => ∃ deeds, b.Does b' deeds) ?_ ?_ ⟨[], .refl b⟩
  · rintro b' s _ ⟨deeds, h⟩
    obtain ⟨hengine, hentries, hresults, hreloads, hcount⟩ :=
      b'.does_record (b'.timers.get s).next (d := .tick s) rfl
    have htick : b'.Does (b'.tick s) [((b'.timers.get s).next, .tick s)] :=
      ⟨hengine, hentries, hresults, hreloads, hcount⟩
    exact ⟨_, h.trans htick⟩
  · rintro b' ⟨deeds, h⟩
    exact ⟨deeds, h.engine, h.entries, h.results, h.reloads, h.reloadCount⟩

theorem does_receive (b : Broadcast τ) (a : Arrival) :
    ∃ deeds, b.Does (b.receive a).1 deeds := by
  obtain ⟨deeds, hticks⟩ := b.does_turnTo a.time
  obtain ⟨_, fault, heq⟩ | ⟨t, flow, _, _, heq⟩ := b.receive_cases a
  · rw [heq]
    exact ⟨deeds, hticks⟩
  · have hhandled := hticks.trans ((b.turnTo a.time).does_record a.time (d := .line t) rfl)
    rw [heq]
    cases flow with
    | proceed | exit => exact ⟨_, hhandled⟩
    | reload restart =>
      obtain ⟨more, hreload⟩ := ((b.turnTo a.time).record a.time
        ((b.turnTo a.time).engine.handleLine t).1).does_reload a.time restart
      exact ⟨_, hhandled.trans hreload⟩

theorem does_handle (close : Nat) (b : Broadcast τ) (arrivals : List Arrival) :
    ∃ deeds, b.Does (b.handle close arrivals).final deeds := by
  induction arrivals generalizing b with
  | nil => exact b.does_turnTo close
  | cons a rest ih =>
    obtain ⟨deeds, hreceived⟩ := b.does_receive a
    rw [handle]
    cases hreceive : b.receive a with
    | mk b' ending =>
      rw [hreceive] at hreceived
      cases ending with
      | none =>
        obtain ⟨more, hrest⟩ := ih b'
        exact ⟨_, hreceived.trans hrest⟩
      | some ending => exact ⟨deeds, hreceived⟩

/-- A run comes of some deeds, whatever the draws. -/
theorem exists_deeds {s : Step τ} {reloads : Reloads} {arrivals : List Arrival} {close : Nat}
    {draws : Draws} {o : Outcome τ} (h : run s reloads arrivals close draws = some o) :
    ∃ deeds, o.final.engine = s.1.afterwards deeds ∧
      results deeds = reloads.first o.final.reloadCount ∧
      o.final.entries = s.2.map (0, ·) ++ (s.1.trace deeds).map Prod.snd := by
  obtain ⟨b, hb, rfl⟩ := Option.map_eq_some_iff.1 h
  obtain ⟨timers, _, hb⟩ := Option.bind_eq_some_iff.1 hb
  cases hb
  obtain ⟨deeds, hengine, hentries, hresults, _, hcount⟩ :=
    does_handle close (record ⟨s.1, timers, reloads, 0, draws, []⟩ 0 s) arrivals
  rw [entries_record] at hentries
  refine ⟨deeds, hengine, ?_, hentries⟩
  rw [hcount]
  change results deeds = reloads.first (0 + (results deeds).length)
  rw [Nat.zero_add]
  exact hresults

/-- What is logged in a run leads from the transmitter of the start to that of the end. -/
theorem leads_run {t : τ} {s : Step τ}
    (h : Leads t s.2 s.1.transmitter) {reloads : Reloads} {arrivals : List Arrival} {close : Nat}
    {draws : Draws} {o : Outcome τ} (ho : run s reloads arrivals close draws = some o) :
    Leads t (o.final.entries.map Prod.snd) o.final.engine.transmitter := by
  obtain ⟨deeds, hengine, _, hentries⟩ := exists_deeds ho
  have hlog : o.final.entries.map Prod.snd = s.2 ++ (s.1.trace deeds).map fun x => x.2.2 := by
    simp [hentries, Function.comp_def]
  rw [hlog, hengine]
  exact h.append (s.1.leads_trace deeds)

end Broadcast
end RadioText
