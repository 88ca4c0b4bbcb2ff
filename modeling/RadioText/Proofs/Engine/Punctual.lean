import RadioText.Proofs.Engine.Receiving

/-! A broadcast on time. Each service is shown something at the instants of its schedule that come
before the end, and at no other time, as long as the transmitter is on air once the lines up to
then have been handled. That holds of every instant a service has to itself, whatever the draws;
where a line is complete at a time at which a service is due, the draws decide what comes first. -/
namespace RadioText

variable {τ : Type} [Transmitter τ]

namespace Broadcast

def shows (b : Broadcast τ) (s : Service) (time : Nat) : Nat :=
  (showTimes s b.entries).count time

/-- What a service is due to be shown at a time is done: its timer has passed the time. -/
def Done (b : Broadcast τ) (x : Schedule) (s : Service) (time : Nat) : Prop :=
  x.Due s time ∧ time < (b.timers.get s).next

instance (b : Broadcast τ) (x : Schedule) (s : Service) (time : Nat) :
    Decidable (b.Done x s time) :=
  inferInstanceAs (Decidable (_ ∧ _))

section
omit [Transmitter τ]
variable {b b' : Broadcast τ} {x x' : Schedule} {now time : Nat} {s : Service}

theorem shows_congr (h : showTimes s b'.entries = showTimes s b.entries) (time : Nat) :
    b'.shows s time = b.shows s time := by
  rw [shows, h, shows]

theorem OnSchedule.le_of_done (h : b.OnSchedule x now) (hdone : b.Done x s time) : time ≤ now :=
  Nat.le_of_not_lt fun hlt => (h.timers s).first time hlt hdone.2 hdone.1

theorem Punctual.done (h : b.Punctual x now) (hlt : time < now) (hdue : x.Due s time) :
    b.Done x s time :=
  ⟨hdue, Nat.lt_of_lt_of_le hlt (h.next s)⟩

/-- What is done once a line is received was done before it: a schedule that it starts has
everything from its time on still ahead. -/
theorem Resumed.done {reloads : Reloads} (h : b.Resumed b' x x' now reloads) (hle : now ≤ time)
    (hdone : b'.Done x' s time) : b.Done x s time := by
  obtain ⟨rfl, htimers⟩ | ⟨_, hstarted⟩ := h.kept
  · rw [Done, htimers] at hdone
    exact hdone
  · exact absurd hdone.2 (Nat.not_lt.2 (hstarted s ▸ hle))

/-- What is done before a line is done after it, too, or its schedule is replaced. -/
theorem Resumed.done_le {reloads : Reloads} (h : b.Resumed b' x x' now reloads)
    (hon : b.OnSchedule x now) (s : Service) (time : Nat) :
    (if b.Done x s time then 1 else 0) ≤
      (if x' ≠ x ∧ time ≤ now ∧ x.Due s time then 1 else 0) +
        if b'.Done x' s time then 1 else 0 := by
  by_cases hdone : b.Done x s time
  · have hle := hon.le_of_done hdone
    rw [if_pos hdone]
    obtain ⟨rfl, htimers⟩ | ⟨hne, _⟩ := h.kept
    · rw [Done, ← htimers] at hdone
      exact Nat.le_add_left_of_le (Nat.le_of_eq (if_pos hdone).symm)
    · exact Nat.le_add_right_of_le (Nat.le_of_eq (if_pos ⟨hne, hle, hdone.1⟩).symm)
  · rw [if_neg hdone]
    exact Nat.zero_le _

theorem done_le_due (b : Broadcast τ) (x : Schedule) (s : Service) (time : Nat) :
    (if b.Done x s time then 1 else 0) ≤ if x.Due s time then 1 else 0 := by
  split_ifs with hdone hdue
  · exact Nat.le_refl 1
  · exact absurd hdone.1 hdue
  · exact Nat.zero_le 1
  · exact Nat.le_refl 0

end

section
variable {b c : Broadcast τ} {x : Schedule} {now time : Nat} {s : Service}

theorem Ticked.done (h : b.Ticked c x now) (hdone : b.Done x s time) : c.Done x s time :=
  ⟨hdone.1, Nat.lt_of_lt_of_le hdone.2 (h.later s)⟩

/-- A service on air is shown what gets done. -/
theorem Ticked.shows_eq (h : b.Ticked c x now) (s : Service) (time : Nat) :
    c.shows s time = b.shows s time +
      if b.engine.isActive = true ∧ ¬ b.Done x s time ∧ c.Done x s time then 1 else 0 := by
  rw [shows, h.shown, List.count_append, shows]
  cases b.engine.isActive with
  | false => simp
  | true =>
    rw [if_pos rfl, Schedule.count_instants]
    simp only [Done, not_and, Nat.not_lt, true_and]
    congr 2
    apply propext
    tauto

theorem Ticked.le_shows (h : b.Ticked c x now) (s : Service) (time : Nat) :
    b.shows s time ≤ c.shows s time := by
  rw [h.shows_eq]
  exact Nat.le_add_right _ _

theorem Ticked.done_iff_of_apart (h : b.Ticked c x now) (hapart : now = time → ¬ x.Due s time) :
    c.Done x s time ↔ time < now ∧ x.Due s time := by
  refine ⟨fun hdone => ⟨?_, hdone.1⟩, fun hall => h.punctual.done hall.1 hall.2⟩
  obtain hlt | rfl := Nat.lt_or_eq_of_le (h.punctual.le_of_done hdone)
  · exact hlt
  · exact absurd hdone.1 (hapart rfl)

theorem Ticked.shows_of_apart (h : b.Ticked c x now) (hdone : ¬ b.Done x s time)
    (hapart : now = time → ¬ x.Due s time) :
    c.shows s time = b.shows s time +
      if time < now ∧ x.Due s time ∧ b.engine.isActive = true then 1 else 0 := by
  simp only [h.shows_eq, h.done_iff_of_apart hapart, hdone, not_false_eq_true, true_and, and_comm,
    and_left_comm]

theorem Ticked.shows_of_done (h : b.Ticked c x now) (hdone : x.Due s time → b.Done x s time) :
    c.shows s time = b.shows s time := by
  rw [h.shows_eq, if_neg (fun hall => hall.2.1 (hdone hall.2.2.1)), Nat.add_zero]

theorem Ticked.shows_of_off (h : b.Ticked c x now)
    (hoff : time ≤ now → x.Due s time → b.engine.isActive = false) :
    c.shows s time = b.shows s time := by
  rw [h.shows_eq, if_neg, Nat.add_zero]
  rintro ⟨hactive, _, hdone⟩
  rw [hoff (h.punctual.le_of_done hdone) hdone.1] at hactive
  cases hactive

theorem Ticked.lt_shows (h : b.Ticked c x now) (hon : b.engine.isActive = true)
    (hb : ¬ b.Done x s time) (hc : c.Done x s time) : b.shows s time < c.shows s time := by
  rw [h.shows_eq, if_pos ⟨hon, hb, hc⟩]
  exact Nat.lt_succ_self _

/-- A schedule is shown at most once at a time. -/
theorem Ticked.shows_le (h : b.Ticked c x now) (s : Service) (time : Nat) :
    c.shows s time + (if b.Done x s time then 1 else 0) ≤
      b.shows s time + if c.Done x s time then 1 else 0 := by
  rw [h.shows_eq]
  by_cases hdone : b.Done x s time
  · simp [hdone, h.done hdone]
  · simp only [hdone, not_false_eq_true, true_and, if_false, Nat.add_zero, Nat.add_le_add_iff_left]
    split_ifs with hshown hc
    · exact Nat.le_refl 1
    · exact absurd hshown.2 hc
    · exact Nat.zero_le 1
    · exact Nat.le_refl 0

end

def isOnAir (b : Broadcast τ) (time : Nat) (done : List Arrival) : Bool :=
  (b.handle time done).final.engine.isActive

theorem isOnAir_nil (hreliable : Transmitter.Reliable τ) {b : Broadcast τ} {x : Schedule}
    {time : Nat} (h : b.OnSchedule x time) : b.isOnAir time [] = b.engine.isActive :=
  (ticked_turnTo hreliable h).isActive

theorem isOnAir_cons {b b' : Broadcast τ} {a : Arrival} (h : b.receive a = (b', none)) (time : Nat)
    (done : List Arrival) : b.isOnAir time (a :: done) = b'.isOnAir time done := by
  rw [isOnAir, handle, h]
  rfl

/-- The transmitter is on, or off, whenever a service is due at a time: that is, after some of the
lines that are handled at that time, or all of them. -/
def Steady (b : Broadcast τ) (x : Schedule) (s : Service) (time : Nat) (on : Bool)
    (arrivals : List Arrival) : Prop :=
  ∀ done ∈ Arrival.stages time arrivals,
    (x.through b.reloads done).Due s time → b.isOnAir time done = on

section
variable {b b' : Broadcast τ} {x x' : Schedule} {s : Service} {time : Nat} {on : Bool}

theorem Steady.isActive (hreliable : Transmitter.Reliable τ) {arrivals : List Arrival}
    (h : b.Steady x s time on arrivals) (hon : b.OnSchedule x time) {next : Nat}
    (hle : time ≤ next) (hahead : ∀ a ∈ arrivals, next ≤ a.time) (hdue : x.Due s time) :
    b.engine.isActive = on := by
  rw [← isOnAir_nil hreliable hon]
  exact h [] (Arrival.nil_mem_stages hle hahead) hdue

theorem Steady.rest {a : Arrival} {rest : List Arrival} (h : b.Steady x s time on (a :: rest))
    (hle : a.time ≤ time) (hnext : x.next? b.reloads a = some (x', b'.reloads))
    (hreceive : b.receive a = (b', none)) : b'.Steady x' s time on rest := by
  intro done hdone hdue
  rw [← isOnAir_cons hreceive]
  refine h (a :: done) (Arrival.cons_mem_stages hle hdone) ?_
  rw [Schedule.through, hnext]
  exact hdue

end

namespace Proceeds

variable {close now : Nat} {b : Broadcast τ} {x : Schedule} {arrivals : List Arrival}
  {o : Outcome τ} {s : Service} {time : Nat}

theorem le_shows (h : Proceeds close now b x arrivals o) (s : Service) (time : Nat) :
    b.shows s time ≤ o.final.shows s time := by
  induction h with
  | closed _ _ hticked => exact hticked.le_shows s time
  | ended _ _ _ hticked _ _ hshown =>
    rw [shows_congr (hshown s)]
    exact hticked.le_shows s time
  | next _ _ _ hticked _ _ hresumed _ ih =>
    refine Nat.le_trans ?_ ih
    rw [shows_congr (hresumed.shown s)]
    exact hticked.le_shows s time

/-- A service is shown something at most once for each schedule. -/
theorem shows_le (h : Proceeds close now b x arrivals o) (s : Service) (time : Nat) :
    o.final.shows s time + (if b.Done x s time then 1 else 0) ≤
      b.shows s time + x.dues s time b.reloads arrivals := by
  induction h with
  | closed _ _ hticked =>
    exact Nat.le_trans (hticked.shows_le s time) (Nat.add_le_add_left (done_le_due _ _ s time) _)
  | ended _ _ _ hticked hnext _ hshown =>
    rw [shows_congr (hshown s), Schedule.dues, hnext]
    exact Nat.le_trans (hticked.shows_le s time) (Nat.add_le_add_left (done_le_due _ _ s time) _)
  | next _ _ _ hticked hnext _ hresumed _ ih =>
    have hturn := hticked.shows_le s time
    have hleft := hresumed.done_le hticked.punctual.toOnSchedule s time
    rw [shows_congr (hresumed.shown s)] at ih
    rw [Schedule.dues, hnext]
    dsimp only
    omega

/-- What is over when a broadcast goes on is not shown any more. -/
theorem shows_of_lt (h : Proceeds close now b x arrivals o) (hlt : time < now) (s : Service) :
    o.final.shows s time = b.shows s time := by
  induction h with
  | closed hpunctual _ hticked => exact hticked.shows_of_done (hpunctual.done hlt)
  | ended hpunctual _ _ hticked _ _ hshown =>
    rw [shows_congr (hshown s)]
    exact hticked.shows_of_done (hpunctual.done hlt)
  | next hpunctual hle _ hticked _ _ hresumed _ ih =>
    rw [ih (Nat.lt_of_lt_of_le hlt hle), shows_congr (hresumed.shown s)]
    exact hticked.shows_of_done (hpunctual.done hlt)

/-- An instant that a service has to itself is over once an input of a later time has its turn, and
not before. -/
theorem shows_of_apart (hreliable : Transmitter.Reliable τ) (h : Proceeds close now b x arrivals o)
    (hle : now ≤ time) (hdone : ¬ b.Done x s time)
    (hapart : x.Apart s time close b.reloads arrivals) :
    o.final.shows s time = b.shows s time +
      if time < o.time ∧ (x.through b.reloads (Arrival.upTo time arrivals)).Due s time ∧
        b.isOnAir time (Arrival.upTo time arrivals) = true then 1 else 0 := by
  induction h with
  | @closed now b x hpunctual _ hticked =>
    rw [hticked.shows_of_apart hdone hapart, ← isOnAir_nil hreliable (hpunctual.mono hle)]
    rfl
  | @ended now b b' x a rest ending hpunctual _ hlater hticked hnext _ hshown =>
    rw [shows_congr (hshown s), hticked.shows_of_apart hdone hapart.1]
    obtain hlt | hge := Nat.lt_or_ge time a.time
    · rw [Arrival.upTo_eq_nil hlt hlater, isOnAir_nil hreliable (hpunctual.mono hle)]
      rfl
    · rw [if_neg (mt And.left (Nat.not_lt.2 hge)), if_neg (mt And.left (Nat.not_lt.2 hge))]
  | @next now b b' x x' a rest o hpunctual _ hlater hticked hnext hreceive hresumed hrest ih =>
    have hturn := hticked.shows_of_apart hdone hapart.1
    obtain hlt | hge := Nat.lt_or_ge time a.time
    · rw [hrest.shows_of_lt hlt, shows_congr (hresumed.shown s), hturn,
        Arrival.upTo_eq_nil hlt hlater, isOnAir_nil hreliable (hpunctual.mono hle)]
      simp only [hlt, Nat.lt_of_lt_of_le hlt hrest.le_time, Schedule.through]
    · have hdone' : ¬ b'.Done x' s time := by
        intro hb'
        have hc := (hticked.done_iff_of_apart hapart.1).1 (hresumed.done hge hb')
        exact Nat.not_lt.2 hge hc.1
      rw [Schedule.Apart, hnext] at hapart
      rw [ih hge hdone' hapart.2, shows_congr (hresumed.shown s), hturn,
        if_neg (mt And.left (Nat.not_lt.2 hge)), Nat.add_zero, Arrival.upTo_cons hge,
        isOnAir_cons hreceive, Schedule.through, hnext]

/-- While the transmitter is off, nothing is shown. -/
theorem shows_of_off (hreliable : Transmitter.Reliable τ) (h : Proceeds close now b x arrivals o)
    (hle : now ≤ time) (hoff : b.Steady x s time false arrivals) :
    o.final.shows s time = b.shows s time := by
  induction h with
  | @closed now b x hpunctual _ hticked =>
    exact hticked.shows_of_off fun htime =>
      hoff.isActive hreliable (hpunctual.mono hle) htime (List.forall_mem_nil _)
  | ended hpunctual _ hlater hticked _ _ hshown =>
    rw [shows_congr (hshown s)]
    exact hticked.shows_of_off fun htime =>
      hoff.isActive hreliable (hpunctual.mono hle) htime hlater
  | @next now b b' x x' a rest o hpunctual _ hlater hticked hnext hreceive hresumed hrest ih =>
    have hline : b'.shows s time = b.shows s time := by
      rw [shows_congr (hresumed.shown s)]
      exact hticked.shows_of_off fun htime =>
        hoff.isActive hreliable (hpunctual.mono hle) htime hlater
    obtain hlt | hge := Nat.lt_or_ge time a.time
    · exact (hrest.shows_of_lt hlt s).trans hline
    · exact (ih hge (hoff.rest hge hnext hreceive)).trans hline

/-- While the transmitter is on, a service is shown what is due, sooner or later. -/
theorem lt_shows (hreliable : Transmitter.Reliable τ) (h : Proceeds close now b x arrivals o)
    (hle : now ≤ time) (hon : b.Steady x s time true arrivals) (hdone : ¬ b.Done x s time)
    (hlt : time < o.time)
    (hdue : (x.through b.reloads (Arrival.upTo time arrivals)).Due s time) :
    b.shows s time < o.final.shows s time := by
  induction h with
  | closed hpunctual _ hticked =>
    have hactive := hon.isActive hreliable (hpunctual.mono hle) (Nat.le_of_lt hlt)
      (List.forall_mem_nil _) hdue
    exact hticked.lt_shows hactive hdone (hticked.punctual.done hlt hdue)
  | ended hpunctual _ hlater hticked _ _ hshown =>
    rw [Arrival.upTo_eq_nil hlt hlater] at hdue
    have hactive := hon.isActive hreliable (hpunctual.mono hle) (Nat.le_of_lt hlt) hlater hdue
    rw [shows_congr (hshown s)]
    exact hticked.lt_shows hactive hdone (hticked.punctual.done hlt hdue)
  | @next now b b' x x' a rest o hpunctual _ hlater hticked hnext hreceive hresumed hrest ih =>
    have hsame := shows_congr (hresumed.shown s) time
    obtain hearly | hge := Nat.lt_or_ge time a.time
    · rw [Arrival.upTo_eq_nil hearly hlater] at hdue
      have hactive := hon.isActive hreliable (hpunctual.mono hle) (Nat.le_of_lt hearly) hlater hdue
      rw [hrest.shows_of_lt hearly, hsame]
      exact hticked.lt_shows hactive hdone (hticked.punctual.done hearly hdue)
    · rw [Arrival.upTo_cons hge, Schedule.through, hnext] at hdue
      -- The tick may have had its turn before the line; if not, it is still ahead.
      by_cases hc : (b.turnTo a.time).Done x s time
      · have hactive := hon.isActive hreliable (hpunctual.mono hle)
          (hticked.punctual.le_of_done hc) hlater hc.1
        have hshown := hticked.lt_shows hactive hdone hc
        exact Nat.lt_of_lt_of_le (hsame ▸ hshown) (hrest.le_shows s time)
      · have hahead : ¬ b'.Done x' s time := mt (hresumed.done hge) hc
        exact Nat.lt_of_le_of_lt (hsame ▸ hticked.le_shows s time)
          (ih hge (hon.rest hge hnext hreceive) hahead hlt hdue)

end Proceeds

/-- Whether the transmitter is on air at a time in a run, once some lines are handled. -/
def onAirAt (start : Step τ) (reloads : Reloads) (draws : Draws) (done : List Arrival)
    (time : Nat) : Bool :=
  (run start reloads done time draws).any fun o => o.final.engine.isActive

/-- A run with paced settings comes to an end, whatever the draws. Until then each service is shown
something once at every instant at which it is due and the transmitter is on air, and not at any
other. That holds of every instant the service has to itself. Where a line is handled, or the input
ends, at a time at which the service is due by then, the draws decide what comes first: it is shown
something at most once for each schedule, not at all if the transmitter is off whenever the service
is due at that time, and at least once if it is on and the run goes on. -/
theorem showTimes_run (settings : Settings) (t : τ) (reloads : Reloads) (chunks : List Chunk)
    (close : Nat) (draws : Draws) (hreliable : Transmitter.Reliable τ)
    (hsettings : settings.Paced) (hreloads : reloads.Paced)
    (hchunks : (chunks.map Chunk.time ++ [close]).Pairwise (· ≤ ·)) :
    let start := Engine.ofSettings settings t
    let arrivals := Feed.arrivals chunks close
    let x := Schedule.ofSettings settings
    ∃ o, run start reloads arrivals close draws = some o ∧ o.ending ≠ .zeroPeriod ∧
      ∀ s time,
        let shown := (showTimes s o.final.entries).count time
        let due (done : List Arrival) : Bool := (x.through reloads done).Due s time
        let onAir (done : List Arrival) : Bool := onAirAt start reloads draws done time
        let handled := Arrival.upTo time arrivals
        (x.Apart s time close reloads arrivals →
          shown = if time < o.time ∧ due handled ∧ onAir handled then 1 else 0) ∧
        shown ≤ x.dues s time reloads arrivals ∧
        ((∀ done ∈ Arrival.stages time arrivals, due done → onAir done = false) → shown = 0) ∧
        ((∀ done ∈ Arrival.stages time arrivals, due done → onAir done = true) →
          time < o.time → due handled → 0 < shown) := by
  intro start arrivals x
  obtain ⟨b, hstart, hpunctual, rfl, hfirst, hsilent⟩ :=
    exists_start settings hsettings t reloads draws
  have horder : (0 :: (arrivals.map Arrival.time ++ [close])).Pairwise (· ≤ ·) :=
    List.pairwise_cons.2 ⟨fun time _ => Nat.zero_le time, Feed.ordered_arrivals hchunks⟩
  have hproceeds := proceeds_handle hreliable hpunctual hreloads horder
  refine ⟨b.handle close arrivals, by rw [run, hstart]; rfl, hproceeds.ending, fun s time => ?_⟩
  intro shown due onAir handled
  have honAir (done : List Arrival) : onAir done = b.isOnAir time done := by
    change onAirAt start b.reloads draws done time = b.isOnAir time done
    rw [onAirAt, run, hstart]
    rfl
  have hnone : b.shows s time = 0 := by rw [shows, hsilent]; rfl
  have hahead : ¬ b.Done x s time := fun hdone => Nat.not_lt_zero time (hfirst s ▸ hdone.2)
  have hsteady (on : Bool) (h : ∀ done ∈ Arrival.stages time arrivals, due done → onAir done = on) :
      b.Steady x s time on arrivals := by
    intro done hdone hdue
    rw [← honAir]
    exact h done hdone (decide_eq_true hdue)
  refine ⟨fun hapart => ?_, ?_, fun hoff => ?_, fun hon hlt hdue => ?_⟩
  · have hcount := hproceeds.shows_of_apart hreliable (Nat.zero_le time) hahead hapart
    rw [hnone, Nat.zero_add] at hcount
    simp only [honAir, due, decide_eq_true_eq]
    exact hcount
  · have hcount := hproceeds.shows_le s time
    rw [hnone, if_neg hahead, Nat.zero_add] at hcount
    exact hcount
  · exact (hproceeds.shows_of_off hreliable (Nat.zero_le time) (hsteady false hoff)).trans hnone
  · exact Nat.lt_of_le_of_lt (Nat.zero_le _) (hproceeds.lt_shows hreliable (Nat.zero_le time)
      (hsteady true hon) hahead hlt (of_decide_eq_true hdue))

/-- The transmitter comes up between two instants, a reload changes nothing, and another one
starts both services on slower rates. A line of the same time follows it, which leaves the
transmitter on. -/
theorem showTimes_run_slower :
    let settings (ps rt : Nat) : Settings :=
      ⟨true, ⟨⟨"a|b".toList, ps, []⟩, ⟨"c".toList, rt, []⟩⟩, 64, .fppdStart, .never⟩
    let reloads : Reloads := ⟨[.ok (settings 1 2), .ok (settings 2 3)], .error []⟩
    let chunks : List Chunk := [⟨500, Utf8.encode "INIT\nUPDATE\n".toList⟩,
      ⟨1500, Utf8.encode "UPDATE\nTx\n".toList⟩]
    let draws : Draws := fun n => if n % 2 = 0 then .input else .tick .rt
    let start := Engine.ofSettings (settings 1 2) ({} : Recorder)
    let arrivals := Feed.arrivals chunks 5000
    let x := Schedule.ofSettings (settings 1 2)
    (settings 1 2).Paced ∧ reloads.Paced ∧
      ∃ o, run start reloads arrivals 5000 draws = some o ∧ o.time = 5000 ∧
        showTimes .ps o.final.entries = [1000, 1500, 3500] ∧
        showTimes .rt o.final.entries = [1500, 4500] ∧
        (∀ s, ∀ time ∈ [0, 500, 1000, 2000, 3500, 4500, 5000, 5500],
          x.Apart s time 5000 reloads arrivals ∧
          let handled := Arrival.upTo time arrivals
          (showTimes s o.final.entries).count time =
            if time < 5000 ∧ (x.through reloads handled).Due s time ∧
              onAirAt start reloads draws handled time = true then 1 else 0) ∧
        ∀ s, ¬ x.Apart s 1500 5000 reloads arrivals ∧ x.dues s 1500 reloads arrivals = 1 ∧
          (∀ done ∈ Arrival.stages 1500 arrivals, (x.through reloads done).Due s 1500 →
            onAirAt start reloads draws done 1500 = true) ∧
          (showTimes s o.final.entries).count 1500 = 1 := by
  intro settings reloads chunks draws start arrivals x
  have hpaced : ∀ ps rt, 0 < ps → 0 < rt → (settings ps rt).Paced := by
    rintro ps rt hps hrt (_ | _)
    · exact hps
    · exact hrt
  have hreloads : reloads.Paced := by
    rintro s (hs | hs)
    · obtain hs | hs : s = settings 1 2 ∨ s = settings 2 3 := by simpa [reloads] using hs
      · exact hs ▸ hpaced 1 2 (by decide) (by decide)
      · exact hs ▸ hpaced 2 3 (by decide) (by decide)
    · cases hs
  obtain ⟨o, hrun, _, hshown⟩ := showTimes_run (settings 1 2) ({} : Recorder) reloads chunks 5000
    draws reliable_recorder (hpaced 1 2 (by decide) (by decide)) hreloads (by simp [chunks])
  have htimes : (run start reloads arrivals 5000 draws).map (fun o =>
      (o.time, showTimes .ps o.final.entries, showTimes .rt o.final.entries)) =
        some (5000, [1000, 1500, 3500], [1500, 4500]) := by
    dsimp only [start, reloads, arrivals, chunks, settings, draws]
    decide +kernel
  have hapart : ∀ s, ∀ time ∈ [0, 500, 1000, 2000, 3500, 4500, 5000, 5500],
      x.Apart s time 5000 reloads arrivals := by
    rintro (_ | _) <;>
      · dsimp only [x, reloads, arrivals, chunks, settings]
        decide +kernel
  have hcontested : ∀ s, ¬ x.Apart s 1500 5000 reloads arrivals ∧
      x.dues s 1500 reloads arrivals = 1 ∧
      (∀ done ∈ Arrival.stages 1500 arrivals, (x.through reloads done).Due s 1500 →
        onAirAt start reloads draws done 1500 = true) ∧
      (x.through reloads (Arrival.upTo 1500 arrivals)).Due s 1500 := by
    rintro (_ | _) <;>
      · dsimp only [x, reloads, arrivals, chunks, settings, start, draws]
        decide +kernel
  rw [hrun, Option.map_some, Option.some.injEq, Prod.mk.injEq, Prod.mk.injEq] at htimes
  obtain ⟨htime, hps, hrt⟩ := htimes
  refine ⟨hpaced 1 2 (by decide) (by decide), hreloads, o, hrun, htime, hps, hrt,
    fun s time hmem => ⟨hapart s time hmem, ?_⟩, fun s => ?_⟩
  · rw [← htime]
    simpa only [decide_eq_true_eq] using (hshown s time).1 (hapart s time hmem)
  · obtain ⟨hnot, hdues, hon, hdue⟩ := hcontested s
    obtain ⟨_, hle, _, hpos⟩ := hshown s 1500
    refine ⟨hnot, hdues, hon, Nat.le_antisymm (Nat.le_trans hle (Nat.le_of_eq hdues)) ?_⟩
    exact hpos (fun done hdone hd => hon done hdone (of_decide_eq_true hd))
      (htime ▸ by decide) (decide_eq_true hdue)

/-- A line behind a reload that brings another rate, in the same chunk: the timers that are started
anew tick at once, and may have their turn before the line. Here it takes the transmitter off the
air, and Program Service is shown something at its time all the same, or not, as drawn. An input
that ends at the time of a tick leaves it to the draws, too. -/
theorem showTimes_run_contested :
    let settings (ps : Nat) : Settings :=
      ⟨true, ⟨⟨"a|b".toList, ps, []⟩, ⟨"c".toList, 4, []⟩⟩, 32, .fppdStart, .playlistStop⟩
    let reloads : Reloads := ⟨[.ok (settings 2)], .error []⟩
    let chunks : List Chunk := [⟨500, Utf8.encode "INIT\n".toList⟩,
      ⟨1500, Utf8.encode "UPDATE\nSTOP\n".toList⟩]
    let start := Engine.ofSettings (settings 1) ({} : Recorder)
    let arrivals := Feed.arrivals chunks 3000
    let x := Schedule.ofSettings (settings 1)
    let times (draws : Draws) :=
      (run start reloads arrivals 3000 draws).map fun o => showTimes .ps o.final.entries
    ((settings 1).Paced ∧ reloads.Paced ∧ ∀ s, ∀ c ∈ chunks, ¬ x.Due s c.time) ∧
      times .timersFirst = some [1000, 1500] ∧ times (fun _ => .input) = some [1000] ∧
      onAirAt start reloads .timersFirst (Arrival.upTo 1500 arrivals) 1500 = false ∧
      (¬ ∀ o ∈ run start reloads arrivals 3000 .timersFirst,
        ∀ time, let handled := Arrival.upTo time arrivals
          time ∈ showTimes .ps o.final.entries ↔ time < o.time ∧
            (x.through reloads handled).Due .ps time ∧
            onAirAt start reloads .timersFirst handled time = true) ∧
      (run start reloads (Arrival.upTo 500 arrivals) 2000 .timersFirst).map (fun o =>
        (o.time, showTimes .ps o.final.entries)) = some (2000, [1000, 2000]) := by
  intro settings reloads chunks start arrivals x times
  have hpaced (ps : Nat) (hps : 0 < ps) : (settings ps).Paced := by
    rintro (_ | _)
    · exact hps
    · exact Nat.succ_pos 3
  have hreloads : reloads.Paced := by
    rintro s (hs | hs)
    · obtain rfl : s = settings 2 := by simpa [reloads] using hs
      exact hpaced 2 Nat.two_pos
    · cases hs
  have hshown : times .timersFirst = some [1000, 1500] := by
    dsimp only [times, start, reloads, arrivals, chunks, settings]
    decide +kernel
  have hoff : onAirAt start reloads .timersFirst (Arrival.upTo 1500 arrivals) 1500 = false := by
    dsimp only [start, reloads, arrivals, chunks, settings]
    decide +kernel
  refine ⟨⟨hpaced 1 Nat.one_pos, hreloads, by rintro (_ | _) <;> decide⟩, hshown, ?_, hoff, ?_, ?_⟩
  · dsimp only [times, start, reloads, arrivals, chunks, settings]
    decide +kernel
  · intro hclaim
    obtain ⟨o, hrun, htimes⟩ := Option.map_eq_some_iff.1 hshown
    obtain ⟨_, _, hon⟩ := (hclaim o hrun 1500).1 (by rw [htimes]; decide)
    rw [hoff] at hon
    cases hon
  · dsimp only [start, reloads, arrivals, chunks, settings]
    decide +kernel

end Broadcast
end RadioText
