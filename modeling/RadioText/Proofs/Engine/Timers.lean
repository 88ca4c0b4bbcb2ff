import RadioText.Proofs.Engine.Coherence
import RadioText.Proofs.Engine.Draws
import RadioText.Proofs.Engine.Feed
import RadioText.Proofs.Engine.Schedule

/-! The engine on time. The timers of a broadcast stand where its schedule is due next; ticks move
them along the schedule, lines leave them alone, and a new rate starts both of them on another
schedule. So what a service on air is shown are the instants its timer has passed. -/
namespace RadioText

namespace Services

theorem get_map {α β : Type} (f : α → β) (x : Services α) (s : Service) :
    (x.map f).get s = f (x.get s) := by
  cases s <;> rfl

theorem ext_get {α : Type} {x y : Services α} (h : ∀ s, x.get s = y.get s) : x = y :=
  congrArg₂ Services.mk (h .ps) (h .rt)

end Services

def Transmitter.Reliable (τ : Type) [Transmitter τ] : Prop :=
  ∀ (t : τ) (s : Service) (line : Text), Transmitter.isActive t = true →
    (Transmitter.perform t (.show s line)).1 = .done ∧
      Transmitter.isActive (Transmitter.perform t (.show s line)).2 = true

theorem reliable_recorder : Transmitter.Reliable Recorder := by
  intro r s line hactive
  have hperform : r.perform (.show s line) = (.done, { r with sent := .show s line :: r.sent }) :=
    if_pos hactive
  change (r.perform (.show s line)).1 = .done ∧ (r.perform (.show s line)).2.active = true
  rw [hperform]
  exact ⟨rfl, hactive⟩

theorem reliable_logger : Transmitter.Reliable Logger := by
  intro l s line hactive
  obtain ⟨record, hperform⟩ : ∃ record, l.perform (.show s line) =
      (.done, { l with records := record :: l.records }) := ⟨_, if_pos hactive⟩
  change (l.perform (.show s line)).1 = .done ∧ (l.perform (.show s line)).2.active = true
  rw [hperform]
  exact ⟨rfl, hactive⟩

def Settings.Paced (s : Settings) : Prop := ∀ service, 0 < s.rates.get service

def Reloads.Paced (r : Reloads) : Prop :=
  ∀ s, .ok s ∈ r.results ∨ r.later = .ok s → s.Paced

theorem Reloads.Paced.result {r : Reloads} (h : r.Paced) {s : Settings}
    (hs : r.next.1 = .ok s) : s.Paced := by
  unfold next at hs
  cases hr : r.results with
  | nil =>
    rw [hr] at hs
    exact h s (.inr hs)
  | cons result rest =>
    rw [hr] at hs
    have hresult : result = .ok s := hs
    exact h s (.inl (by rw [hr, hresult]; exact List.mem_cons_self))

theorem Reloads.Paced.rest {r : Reloads} (h : r.Paced) : r.next.2.Paced := by
  unfold next
  cases hr : r.results with
  | nil => exact h
  | cons result rest =>
    rintro s (hs | hs)
    · exact h s (.inl (by rw [hr]; exact List.mem_cons_of_mem _ hs))
    · exact h s (.inr hs)

/-- A timer of a service stands where the schedule is due; after `now` nothing is due before. The
instant `now` itself may be done already. -/
structure Timer.On (t : Timer) (x : Schedule) (s : Service) (now : Nat) : Prop where
  period : t.period = x.period s
  due : x.Due s t.next
  first : ∀ time, now < time → time < t.next → ¬ x.Due s time

namespace Timer

theorem On.mono {t : Timer} {x : Schedule} {s : Service} {now time : Nat} (h : t.On x s now)
    (hle : now ≤ time) : t.On x s time :=
  ⟨h.period, h.due, fun later hlater => h.first later (Nat.lt_of_le_of_lt hle hlater)⟩

theorem On.next_advance {t : Timer} {x : Schedule} {s : Service} {now : Nat} (h : t.On x s now) :
    t.advance.next = t.next + x.period s :=
  congrArg (t.next + ·) h.period

theorem On.advance {t : Timer} {x : Schedule} {s : Service} {time : Nat} (h : t.On x s time)
    (hle : t.next ≤ time) : t.advance.On x s time where
  period := h.period
  due := h.next_advance ▸ h.due.add_period
  first _ hlater hnext :=
    h.due.not_due (Nat.lt_of_le_of_lt hle hlater) (h.next_advance ▸ hnext)

/-- The next instant is the one the timer stands at. -/
theorem On.instants {t : Timer} {x : Schedule} {s : Service} {now time : Nat} (h : t.On x s now)
    (hle : t.advance.next ≤ time) :
    x.instants s t.next time = t.next :: x.instants s t.advance.next time := by
  have hpos : 0 < x.period s := h.period ▸ t.period_pos
  rw [h.next_advance] at hle ⊢
  exact h.due.instants_eq_cons hpos (Nat.lt_of_lt_of_le (Nat.lt_add_of_pos_right hpos) hle)

end Timer

def Entry.shows (s : Service) : Entry → Bool
  | .call (.show s' _) .done => s' = s
  | _ => false

def showTimes (s : Service) (entries : List (Nat × Entry)) : List Nat :=
  (entries.filter fun x => x.2.shows s).map Prod.fst

theorem showTimes_append (s : Service) (entries more : List (Nat × Entry)) :
    showTimes s (entries ++ more) = showTimes s entries ++ showTimes s more := by
  simp [showTimes]

def Silent (log : List Entry) : Prop := ∀ entry ∈ log, ∀ s, entry.shows s = false

theorem Silent.append {log more : List Entry} (h : Silent log) (hmore : Silent more) :
    Silent (log ++ more) := fun entry hentry =>
  (List.mem_append.1 hentry).elim (h entry) (hmore entry)

theorem Silent.nil : Silent [] := fun _ h => absurd h List.not_mem_nil

theorem Silent.showTimes {log : List Entry} (h : Silent log) (now : Nat) (s : Service) :
    showTimes s (log.map (now, ·)) = [] := by
  rw [RadioText.showTimes, List.map_eq_nil_iff, List.filter_eq_nil_iff]
  intro x hx
  obtain ⟨entry, hentry, rfl⟩ := List.mem_map.1 hx
  simp [h entry hentry s]

variable {τ : Type}

theorem Step.silent_andThen {r : Step τ} {f : Engine τ → Step τ} (h : Silent r.2)
    (hf : ∀ e, Silent (f e).2) : Silent (r.andThen f).2 :=
  h.append (hf r.1)

namespace Broadcast

theorem entries_record (b : Broadcast τ) (now : Nat) (r : Step τ) :
    (b.record now r).entries = b.entries ++ r.2.map (now, ·) := by
  rw [entries, record, List.foldl_flip_cons_eq_append, List.reverse_append, List.reverse_reverse]
  rfl

theorem showTimes_record {b : Broadcast τ} {r : Step τ} (h : Silent r.2) (now : Nat)
    (s : Service) : showTimes s (b.record now r).entries = showTimes s b.entries := by
  rw [entries_record, showTimes_append, h.showTimes, List.append_nil]

structure OnSchedule (b : Broadcast τ) (x : Schedule) (now : Nat) : Prop where
  rates : ∀ s, (b.engine.channels.get s).rate = x.rates.get s
  timers : ∀ s, (b.timers.get s).On x s now

theorem OnSchedule.mono {b : Broadcast τ} {x : Schedule} {now time : Nat} (h : b.OnSchedule x now)
    (hle : now ≤ time) : b.OnSchedule x time :=
  ⟨h.rates, fun s => (h.timers s).mono hle⟩

structure Punctual (b : Broadcast τ) (x : Schedule) (now : Nat) : Prop
    extends b.OnSchedule x now where
  next : b.CaughtUp now

theorem Punctual.record {b : Broadcast τ} {x : Schedule} {now : Nat} (h : b.Punctual x now)
    {r : Step τ} (hr : b.engine.Untouched r) : (b.record now r).Punctual x now where
  rates s := (hr.rate s).trans (h.rates s)
  timers := h.timers
  next := h.next

structure Resumed (b b' : Broadcast τ) (x x' : Schedule) (now : Nat) (reloads : Reloads) :
    Prop where
  punctual : b'.Punctual x' now
  kept : x' = x ∧ b'.timers = b.timers ∨ x' ≠ x ∧ ∀ s, (b'.timers.get s).next = now
  reloads : b'.reloads = reloads
  shown : ∀ s, showTimes s b'.entries = showTimes s b.entries

theorem Resumed.trans {b b' b'' : Broadcast τ} {x x' : Schedule} {now : Nat}
    {reloads reloads' : Reloads} (h : b.Resumed b' x x now reloads)
    (h' : b'.Resumed b'' x x' now reloads') : b.Resumed b'' x x' now reloads' where
  punctual := h'.punctual
  kept := by
    obtain ⟨_, htimers⟩ | ⟨hne, _⟩ := h.kept
    · rw [← htimers]
      exact h'.kept
    · exact absurd rfl hne
  reloads := h'.reloads
  shown s := (h'.shown s).trans (h.shown s)

theorem Resumed.record {b b' : Broadcast τ} {x x' : Schedule} {now : Nat} {reloads : Reloads}
    (h : b.Resumed b' x x' now reloads) {r : Step τ} (hr : b'.engine.Untouched r)
    (hsilent : Silent r.2) : b.Resumed (b'.record now r) x x' now reloads where
  punctual := h.punctual.record hr
  kept := h.kept
  reloads := h.reloads
  shown s := (showTimes_record hsilent now s).trans (h.shown s)

def read (b : Broadcast τ) : Broadcast τ :=
  { b with reloads := b.reloads.next.2, reloadCount := b.reloadCount + 1 }

theorem Punctual.read {b : Broadcast τ} {x : Schedule} {now : Nat} (h : b.Punctual x now) :
    b.Resumed b.read x x now b.reloads.next.2 :=
  ⟨⟨⟨h.rates, h.timers⟩, h.next⟩, .inl ⟨rfl, rfl⟩, rfl, fun _ => rfl⟩

end Broadcast

variable [Transmitter τ]

namespace Engine

theorem silent_startTransmitter (e : Engine τ) : Silent e.startTransmitter.2 := by
  obtain ⟨_, h⟩ | ⟨_, _, a, _, _, h⟩ := e.startTransmitter_cases <;>
    simp [h, Silent, Entry.shows]

theorem silent_stopTransmitter (e : Engine τ) : Silent e.stopTransmitter.2 := by
  obtain ⟨_, h⟩ | ⟨_, a, _, _, h⟩ := e.stopTransmitter_cases <;> simp [h, Silent, Entry.shows]

theorem silent_cycleTransmitter (e : Engine τ) : Silent e.cycleTransmitter.2 := by
  refine Step.silent_andThen e.silent_stopTransmitter fun e' => ?_
  split
  · exact e'.silent_startTransmitter
  · exact .nil

theorem silent_apply (e : Engine τ) (c : Command) : Silent (e.apply c).1.2 := by
  cases c with
  | init | start =>
    rw [apply]
    split
    · exact e.silent_startTransmitter
    · exact .nil
  | stop =>
    rw [apply]
    simp only
    split
    · exact silent_stopTransmitter _
    · exact .nil
  | exit => exact e.silent_stopTransmitter
  | _ => exact .nil

theorem silent_handleLine (e : Engine τ) (t : Text) : Silent (e.handleLine t).1.2 := by
  cases hc : Command.read t with
  | ok c =>
    rw [handleLine_ok hc]
    exact e.silent_apply c
  | error err => cases err <;> simp [handleLine, hc, Silent, Entry.shows]

theorem silent_reconfigure (e : Engine τ) (s : Settings) : Silent (e.reconfigure s).1.2 := by
  rw [reconfigure_eq]
  refine Step.silent_andThen (by simp [Silent, Entry.shows]) fun e' => ?_
  split
  · exact e'.silent_stopTransmitter
  · exact .nil

theorem rate_reconfigure (e : Engine τ) (settings : Settings) (s : Service) :
    ((e.reconfigure settings).1.1.channels.get s).rate = settings.rates.get s := by
  rw [channels_reconfigure, adopted]
  split <;> cases s <;> rfl

theorem reconfigure_eq_true_iff_rates {e : Engine τ} {x : Schedule}
    (h : ∀ s, (e.channels.get s).rate = x.rates.get s) (settings : Settings) :
    (e.reconfigure settings).2 = true ↔ settings.rates ≠ x.rates := by
  rw [reconfigure_eq_true_iff]
  constructor
  · rintro ⟨s, hne⟩ heq
    refine hne ?_
    rw [h s, ← heq, Settings.rates, Services.get_map]
  · intro hne
    by_contra hall
    refine hne (Services.ext_get fun s => ?_)
    rw [Settings.rates, Services.get_map, ← h s]
    exact not_not.1 fun hs => hall ⟨s, hs⟩

theorem isActive_tick (h : Transmitter.Reliable τ) (e : Engine τ) (s : Service) :
    (e.tick s).1.isActive = e.isActive := by
  cases hactive : e.isActive with
  | false => rw [tick_of_inactive hactive, hactive]
  | true =>
    obtain ⟨a, t, hperform, htick⟩ := tick_of_active hactive s
    obtain ⟨_, hon⟩ := h e.transmitter s (e.rotation s).current hactive
    rw [hperform] at hon
    rw [htick]
    exact hon

theorem showTimes_tick (h : Transmitter.Reliable τ) (e : Engine τ) (s s' : Service) (now : Nat) :
    showTimes s' ((e.tick s).2.map (now, ·)) =
      if e.isActive = true ∧ s = s' then [now] else [] := by
  cases hactive : e.isActive with
  | false => simp [tick_of_inactive hactive, showTimes]
  | true =>
    obtain ⟨a, t, hperform, htick⟩ := tick_of_active hactive s
    obtain ⟨hdone, _⟩ := h e.transmitter s (e.rotation s).current hactive
    rw [hperform] at hdone
    cases hdone
    rw [htick]
    by_cases hs : s = s' <;> simp [showTimes, Entry.shows, hs]

theorem flow_apply (e : Engine τ) (c : Command) : (e.apply c).2 = c.flow := by
  cases c <;> rfl

end Engine

theorem Arrival.flow?_eq {a : Arrival} {t : Text} (h : a.line = .ok t) (e : Engine τ) :
    a.flow? = some (e.handleLine t).2 := by
  unfold flow?
  rw [h]
  cases hc : Command.read t with
  | ok c => simp [Engine.handleLine_ok hc, Engine.flow_apply, hc]
  | error err => cases err <;> simp [Engine.handleLine, hc]

namespace Broadcast

theorem OnSchedule.tick {b : Broadcast τ} {x : Schedule} {time : Nat} {s : Service}
    (h : b.OnSchedule x time) (hle : (b.timers.get s).next ≤ time) :
    (b.tick s).OnSchedule x time where
  rates s' := ((b.engine.untouched_tick s).rate s').trans (h.rates s')
  timers s' := by
    change ((b.timers.modify s Timer.advance).get s').On x s' time
    rw [Services.get_modify]
    split
    · rename_i hs
      subst hs
      exact (h.timers s).advance hle
    · exact h.timers s'

theorem next_le_tick (b : Broadcast τ) (s s' : Service) :
    (b.timers.get s').next ≤ ((b.tick s).timers.get s').next := by
  change _ ≤ ((b.timers.modify s Timer.advance).get s').next
  rw [Services.get_modify]
  split
  · exact Nat.le_add_right _ _
  · exact Nat.le_refl _

/-- A tick is the next instant of its service, and none of the other. -/
theorem OnSchedule.instants {b : Broadcast τ} {x : Schedule} {now time : Nat} {s s' : Service}
    (h : b.OnSchedule x now) (hle : ((b.tick s).timers.get s').next ≤ time) :
    x.instants s' (b.timers.get s').next time =
      (if s = s' then [(b.timers.get s).next] else []) ++
        x.instants s' ((b.tick s).timers.get s').next time := by
  have htimers : (b.tick s).timers = b.timers.modify s Timer.advance := rfl
  rw [htimers, Services.get_modify] at hle ⊢
  by_cases hs : s = s'
  · subst hs
    rw [if_pos rfl] at hle
    rw [if_pos rfl, if_pos rfl, (h.timers s).instants hle]
    rfl
  · rw [if_neg hs, if_neg hs, List.nil_append]

theorem showTimes_tick (hreliable : Transmitter.Reliable τ) (b : Broadcast τ) (s s' : Service) :
    showTimes s' (b.tick s).entries = showTimes s' b.entries ++
      if b.engine.isActive = true ∧ s = s' then [(b.timers.get s).next] else [] := by
  have hentries : (b.tick s).entries =
      (b.record (b.timers.get s).next (b.engine.tick s)).entries := rfl
  rw [hentries, entries_record, showTimes_append, Engine.showTimes_tick hreliable]

/-- `b'` comes from `b` by the ticks before the turn of an input, and a service on air is shown
something at each instant its timer has passed. -/
structure Ticked (b b' : Broadcast τ) (x : Schedule) (time : Nat) : Prop where
  punctual : b'.Punctual x time
  later : ∀ s, (b.timers.get s).next ≤ (b'.timers.get s).next
  reloads : b'.reloads = b.reloads
  isActive : b'.engine.isActive = b.engine.isActive
  shown : ∀ s, showTimes s b'.entries = showTimes s b.entries ++
    if b.engine.isActive = true then
      x.instants s (b.timers.get s).next (b'.timers.get s).next else []

theorem ticked_runTimers (hreliable : Transmitter.Reliable τ) {b : Broadcast τ} {x : Schedule}
    {time : Nat} (h : b.OnSchedule x time) : b.Ticked (b.runTimers time) x time := by
  induction b using @runTimers.induct τ _ time with
  | case1 b hpick =>
    rw [runTimers_of_input hpick]
    refine ⟨⟨h, le_next_of_pick hpick⟩, fun s => Nat.le_refl _, rfl, rfl, fun s => ?_⟩
    rw [x.instants_of_le s (Nat.le_refl _), ite_self, List.append_nil]
  | case2 b s hpick ih =>
    obtain ⟨hpunctual, hlater, hreloads, hactive, hshown⟩ := ih (h.tick (next_le_of_pick hpick))
    have htick : (b.tick s).engine.isActive = b.engine.isActive :=
      b.engine.isActive_tick hreliable _
    rw [runTimers_of_tick hpick]
    refine ⟨hpunctual, fun s' => Nat.le_trans (b.next_le_tick s s') (hlater s'), hreloads,
      hactive.trans htick, fun s' => ?_⟩
    rw [hshown, b.showTimes_tick hreliable, htick, h.instants (hlater s')]
    cases b.engine.isActive with
    | false => simp
    | true => simp

theorem ticked_turnTo (hreliable : Transmitter.Reliable τ) {b : Broadcast τ} {x : Schedule}
    {time : Nat} (h : b.OnSchedule x time) : b.Ticked (b.turnTo time) x time := by
  obtain ⟨⟨⟨hrates, htimers⟩, hnext⟩, hlater, hreloads, hactive, hshown⟩ :=
    ticked_runTimers hreliable h
  exact ⟨⟨⟨hrates, htimers⟩, hnext⟩, hlater, hreloads, hactive, hshown⟩

def cycled (now : Nat) (restart : Bool) (b : Broadcast τ) : Broadcast τ :=
  if restart then b.record now b.engine.cycleTransmitter else b

theorem Resumed.cycled {b b' : Broadcast τ} {x x' : Schedule} {now : Nat} {reloads : Reloads}
    (h : b.Resumed b' x x' now reloads) (restart : Bool) :
    b.Resumed (b'.cycled now restart) x x' now reloads := by
  cases restart with
  | false => exact h
  | true => exact h.record b'.engine.untouched_cycleTransmitter b'.engine.silent_cycleTransmitter

theorem reload_error {b : Broadcast τ} {reason : Text} (h : b.reloads.next.1 = .error reason)
    (now : Nat) (restart : Bool) :
    b.reload now restart =
      ((b.read.record now (b.engine, [.kept reason])).cycled now restart, none) := by
  unfold reload
  simp only [h]
  rfl

theorem reload_ok {b : Broadcast τ} {settings : Settings} (h : b.reloads.next.1 = .ok settings)
    (now : Nat) (restart : Bool) :
    b.reload now restart =
      let adopted := b.read.record now (b.engine.reconfigure settings).1
      if (b.engine.reconfigure settings).2 then
        match timers? now adopted.engine.channels with
        | some timers => (({ adopted with timers }).cycled now restart, none)
        | none => (adopted, some .zeroPeriod)
      else (adopted.cycled now restart, none) := by
  unfold reload
  simp only [h]
  rfl

/-- Settings that are read are taken over; the timers stay, are started anew, or cannot start. -/
theorem reload_cases (b : Broadcast τ) (now : Nat) (restart : Bool) :
    (∃ reason, b.reloads.next.1 = .error reason ∧ b.reload now restart =
      ((b.read.record now (b.engine, [.kept reason])).cycled now restart, none)) ∨
    ∃ settings, b.reloads.next.1 = .ok settings ∧
      let adopted := b.read.record now (b.engine.reconfigure settings).1
      (b.reload now restart = (adopted, some .zeroPeriod) ∨
        ∃ timers, (timers = b.timers ∨ timers? now adopted.engine.channels = some timers) ∧
          b.reload now restart = ({ adopted with timers }.cycled now restart, none)) := by
  cases hresult : b.reloads.next.1 with
  | error reason => exact .inl ⟨reason, rfl, reload_error hresult now restart⟩
  | ok settings =>
    refine .inr ⟨settings, rfl, ?_⟩
    rw [reload_ok hresult]
    simp only
    split
    · split
      · rename_i timers htimers
        exact .inr ⟨timers, .inr htimers, rfl⟩
      · exact .inl rfl
    · exact .inr ⟨b.timers, .inl rfl, rfl⟩

theorem exists_timers {channels : Services Channel} {rates : Services Nat} (now : Nat)
    (h : ∀ s, (channels.get s).rate = rates.get s) (hpos : ∀ s, 0 < rates.get s) :
    ∃ timers, timers? now channels = some timers ∧
      ∀ s, (timers.get s).next = now ∧ (timers.get s).On ⟨now, rates⟩ s now := by
  have hstart : ∀ s, ∃ timer, Timer.start? now ((channels.get s).rate * millisPerSecond) =
      some timer ∧ timer.next = now ∧ timer.On ⟨now, rates⟩ s now := by
    intro s
    have hperiod : 0 < rates.get s * millisPerSecond := Nat.mul_pos (hpos s) (by decide)
    rw [h s]
    refine ⟨⟨now, _, hperiod⟩, dif_pos hperiod, rfl, rfl, Schedule.due_since _ s, ?_⟩
    intro time hnow htime
    exact absurd htime (Nat.not_lt.2 (Nat.le_of_lt hnow))
  obtain ⟨ps, hps, honps⟩ := hstart .ps
  obtain ⟨rt, hrt, honrt⟩ := hstart .rt
  change Timer.start? now (channels.ps.rate * millisPerSecond) = some ps at hps
  change Timer.start? now (channels.rt.rate * millisPerSecond) = some rt at hrt
  refine ⟨⟨ps, rt⟩, by simp [timers?, hps, hrt], fun s => ?_⟩
  cases s with
  | ps => exact honps
  | rt => exact honrt

/-- Reading the settings again puts the broadcast on the schedule that comes of it. -/
theorem exists_reload {b : Broadcast τ} {x : Schedule} {now : Nat} (h : b.Punctual x now)
    (hpaced : b.reloads.Paced) (restart : Bool) :
    ∃ b', b.reload now restart = (b', none) ∧
      b.Resumed b' x (x.after now b.reloads.next.1) now b.reloads.next.2 := by
  cases hresult : b.reloads.next.1 with
  | error reason =>
    have hkept : b.engine.Untouched (b.engine, [.kept reason]) := ⟨rfl, fun _ => rfl, rfl⟩
    have hsilent : Silent [.kept reason] := by simp [Silent, Entry.shows]
    exact ⟨_, reload_error hresult now restart, (h.read.record hkept hsilent).cycled restart⟩
  | ok settings =>
    have hrates := b.engine.rate_reconfigure settings
    have hshown := showTimes_record (b := b.read) (b.engine.silent_reconfigure settings) now
    have hchanged := Engine.reconfigure_eq_true_iff_rates h.rates settings
    rw [reload_ok hresult now restart]
    simp only
    by_cases hsame : settings.rates = x.rates
    · rw [if_neg (by simpa using fun hne => hchanged.1 hne hsame), Schedule.after, if_pos hsame]
      have hadopted : b.Resumed (b.read.record now (b.engine.reconfigure settings).1) x x now
          b.reloads.next.2 :=
        ⟨⟨⟨hsame ▸ hrates, h.timers⟩, h.next⟩, .inl ⟨rfl, rfl⟩, rfl, hshown⟩
      exact ⟨_, rfl, hadopted.cycled restart⟩
    · obtain ⟨timers, htimers, hon⟩ := exists_timers now hrates (hpaced.result hresult)
      rw [if_pos (hchanged.2 hsame), Schedule.after, if_neg hsame]
      have hadopted : b.Resumed
          { b.read.record now (b.engine.reconfigure settings).1 with timers }
          x ⟨now, settings.rates⟩ now b.reloads.next.2 :=
        ⟨⟨⟨hrates, fun s => (hon s).2⟩, fun s => Nat.le_of_eq (hon s).1.symm⟩,
          .inr ⟨fun heq => hsame (congrArg Schedule.rates heq), fun s => (hon s).1⟩, rfl, hshown⟩
      have hstarted : timers? now (b.read.record now
          (b.engine.reconfigure settings).1).engine.channels = some timers := htimers
      rw [hstarted]
      exact ⟨_, rfl, hadopted.cycled restart⟩

end Broadcast
end RadioText
