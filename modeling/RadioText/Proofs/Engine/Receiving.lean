import RadioText.Proofs.Engine.Timers

/-! Lines in time. A line has its turn after some ticks; then it ends the run, or leads on to the
schedule that comes of it. So a run with paced settings proceeds from line to line with its timers on
schedule, until it is over. -/
namespace RadioText

variable {τ : Type} [Transmitter τ]

theorem Reloads.Paced.next? {x x' : Schedule} {r r' : Reloads} (h : r.Paced) {a : Arrival}
    (ha : x.next? r a = some (x', r')) : r'.Paced := by
  unfold Schedule.next? at ha
  split at ha
  · cases ha
    exact h
  · cases ha
    exact h.rest
  · cases ha
  · cases ha

namespace Broadcast

theorem receive_error {a : Arrival} {fault : Utf8.Fault} (h : a.line = .error fault)
    (b : Broadcast τ) : b.receive a = (b.turnTo a.time, some (.unreadable fault)) := by
  simp [receive, h]

def follow (now : Nat) (b : Broadcast τ) : Flow → Broadcast τ × Option Ending
  | .proceed => (b, none)
  | .exit => (b, some .exit)
  | .reload restart => b.reload now restart

theorem receive_ok {a : Arrival} {t : Text} (h : a.line = .ok t) (b : Broadcast τ) :
    b.receive a = ((b.turnTo a.time).record a.time
      ((b.turnTo a.time).engine.handleLine t).1).follow a.time
        ((b.turnTo a.time).engine.handleLine t).2 := by
  unfold receive
  simp only [h]
  cases ((b.turnTo a.time).engine.handleLine t).2 <;> rfl

/-- A line that cannot be read ends the run; another one is handled, and then followed by what is
left to do after it. -/
theorem receive_cases (b : Broadcast τ) (a : Arrival) :
    (a.flow? = none ∧
      ∃ fault, b.receive a = (b.turnTo a.time, some (.unreadable fault))) ∨
    ∃ t flow, a.line = .ok t ∧ a.flow? = some flow ∧
      b.receive a = ((b.turnTo a.time).record a.time
        ((b.turnTo a.time).engine.handleLine t).1).follow a.time flow := by
  cases hline : a.line with
  | error fault => exact .inl ⟨by simp [Arrival.flow?, hline], fault, receive_error hline b⟩
  | ok t =>
    exact .inr ⟨t, _, rfl, Arrival.flow?_eq hline (b.turnTo a.time).engine, receive_ok hline b⟩

/-- A line either ends the run or leads on to the schedule that comes of it. -/
theorem exists_receive (hreliable : Transmitter.Reliable τ) {b : Broadcast τ} {x : Schedule}
    {a : Arrival} (h : b.OnSchedule x a.time) (hpaced : b.reloads.Paced) :
    match x.next? b.reloads a with
    | some (x', reloads) => ∃ b', b.receive a = (b', none) ∧
        (b.turnTo a.time).Resumed b' x x' a.time reloads
    | none => ∃ b' ending, b.receive a = (b', some ending) ∧ ending ≠ .zeroPeriod ∧
        ∀ s, showTimes s b'.entries = showTimes s (b.turnTo a.time).entries := by
  have hticked := ticked_turnTo hreliable h
  obtain ⟨hflow, fault, hreceive⟩ | ⟨t, flow, _, hflow, hreceive⟩ := b.receive_cases a
  · rw [Schedule.next?, hflow]
    exact ⟨_, _, hreceive, by simp, fun s => rfl⟩
  · have hhandled : (b.turnTo a.time).Resumed
        ((b.turnTo a.time).record a.time ((b.turnTo a.time).engine.handleLine t).1)
        x x a.time b.reloads :=
      Resumed.record ⟨hticked.punctual, .inl ⟨rfl, rfl⟩, hticked.reloads, fun s => rfl⟩
        (Engine.untouched_handleLine _ t) (Engine.silent_handleLine _ t)
    rw [hreceive, Schedule.next?, hflow]
    cases flow with
    | proceed => exact ⟨_, rfl, hhandled⟩
    | exit => exact ⟨_, _, rfl, by simp, hhandled.shown⟩
    | reload restart =>
      obtain ⟨b', hreload, hresumed⟩ :=
        exists_reload hhandled.punctual (hhandled.reloads ▸ hpaced) restart
      rw [hhandled.reloads] at hresumed
      exact ⟨b', hreload, hhandled.trans hresumed⟩

/-- The lines left and the end of the input are handled in time: each has its turn after some ticks,
and a line may bring another schedule. -/
inductive Proceeds (close : Nat) :
    Nat → Broadcast τ → Schedule → List Arrival → Outcome τ → Prop
  | closed {now : Nat} {b : Broadcast τ} {x : Schedule} :
      b.Punctual x now → now ≤ close → b.Ticked (b.turnTo close) x close →
      Proceeds close now b x [] ⟨.inputClosed, close, b.turnTo close⟩
  | ended {now : Nat} {b b' : Broadcast τ} {x : Schedule} {a : Arrival} {rest : List Arrival}
      {ending : Ending} :
      b.Punctual x now → now ≤ a.time → (∀ later ∈ a :: rest, a.time ≤ later.time) →
      b.Ticked (b.turnTo a.time) x a.time → x.next? b.reloads a = none → ending ≠ .zeroPeriod →
      (∀ s, showTimes s b'.entries = showTimes s (b.turnTo a.time).entries) →
      Proceeds close now b x (a :: rest) ⟨ending, a.time, b'⟩
  | next {now : Nat} {b b' : Broadcast τ} {x x' : Schedule} {a : Arrival} {rest : List Arrival}
      {o : Outcome τ} :
      b.Punctual x now → now ≤ a.time → (∀ later ∈ a :: rest, a.time ≤ later.time) →
      b.Ticked (b.turnTo a.time) x a.time → x.next? b.reloads a = some (x', b'.reloads) →
      b.receive a = (b', none) → (b.turnTo a.time).Resumed b' x x' a.time b'.reloads →
      Proceeds close a.time b' x' rest o → Proceeds close now b x (a :: rest) o

theorem proceeds_handle (hreliable : Transmitter.Reliable τ) {b : Broadcast τ} {x : Schedule}
    {now close : Nat} {arrivals : List Arrival} (h : b.Punctual x now) (hpaced : b.reloads.Paced)
    (horder : (now :: (arrivals.map Arrival.time ++ [close])).Pairwise (· ≤ ·)) :
    Proceeds close now b x arrivals (b.handle close arrivals) := by
  induction arrivals generalizing b x now with
  | nil =>
    have hclose : now ≤ close := by simpa using horder
    exact .closed h hclose (ticked_turnTo hreliable (h.mono hclose))
  | cons a rest ih =>
    obtain ⟨hnow, hrest⟩ := List.pairwise_cons.1 horder
    have ha : now ≤ a.time := hnow a.time (by simp)
    have hlater : ∀ later ∈ a :: rest, a.time ≤ later.time :=
      List.forall_mem_cons.2 ⟨Nat.le_refl _, fun later hmem =>
        (List.pairwise_cons.1 hrest).1 later.time
          (List.mem_append_left _ (List.mem_map_of_mem hmem))⟩
    have hticked := ticked_turnTo hreliable (h.mono ha)
    have hreceive := exists_receive hreliable (h.mono ha) hpaced
    rw [handle]
    cases hnext : x.next? b.reloads a with
    | none =>
      rw [hnext] at hreceive
      obtain ⟨b', ending, hreceive, hending, hshown⟩ := hreceive
      rw [hreceive]
      exact .ended h ha hlater hticked hnext hending hshown
    | some next =>
      obtain ⟨x', reloads⟩ := next
      rw [hnext] at hreceive
      obtain ⟨b', hreceive, hresumed⟩ := hreceive
      obtain rfl := hresumed.reloads
      rw [hreceive]
      exact .next h ha hlater hticked hnext hreceive hresumed
        (ih hresumed.punctual (hpaced.next? hnext) hrest)

namespace Proceeds

variable {close now : Nat} {b : Broadcast τ} {x : Schedule} {arrivals : List Arrival}
  {o : Outcome τ}

theorem ending (h : Proceeds close now b x arrivals o) : o.ending ≠ .zeroPeriod := by
  induction h with
  | closed => simp
  | ended _ _ _ _ _ hending _ => exact hending
  | next _ _ _ _ _ _ _ _ ih => exact ih

theorem le_time (h : Proceeds close now b x arrivals o) : now ≤ o.time := by
  induction h with
  | closed _ hle _ => exact hle
  | ended _ hle => exact hle
  | next _ hle _ _ _ _ _ _ ih => exact Nat.le_trans hle ih

end Proceeds

theorem exists_start (settings : Settings) (hpaced : settings.Paced) (t : τ) (reloads : Reloads)
    (draws : Draws) :
    ∃ b, start? (Engine.ofSettings settings t) reloads draws = some b ∧
      b.Punctual (.ofSettings settings) 0 ∧ b.reloads = reloads ∧
      (∀ s, (b.timers.get s).next = 0) ∧ ∀ s, showTimes s b.entries = [] := by
  have hrates : ∀ s, ((Engine.ofSettings settings t).1.channels.get s).rate =
      settings.rates.get s := by
    intro s
    cases s <;> rfl
  obtain ⟨timers, htimers, hon⟩ := exists_timers 0 hrates hpaced
  refine ⟨_, by rw [start?, htimers]; rfl, ?_, rfl, fun s => (hon s).1, fun s => ?_⟩
  · exact ⟨⟨hrates, fun s => (hon s).2⟩, fun s => Nat.zero_le _⟩
  · rw [showTimes_record (by simp [Silent, Engine.ofSettings, Engine.request, Entry.shows])]
    rfl

end Broadcast
end RadioText
