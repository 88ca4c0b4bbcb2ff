import RadioText.Engine.Broadcast

/-! Whose turn it is. Of what is there at one time anything may come first: which it is lies with the
draws, and nothing here depends on them. A tick that comes first also does so if the input comes
later or not at all. -/
namespace RadioText

namespace Services

theorem get_modify {α : Type} (f : α → α) (x : Services α) (s s' : Service) :
    (x.modify s f).get s' = if s = s' then f (x.get s') else x.get s' := by
  cases s <;> cases s' <;> rfl

end Services

namespace Broadcast

section
variable {τ : Type} {b : Broadcast τ}

theorem soonest_le (time : Nat) (b : Broadcast τ) :
    b.soonest time ≤ time ∧ ∀ s, b.soonest time ≤ (b.timers.get s).next := by
  refine ⟨Nat.min_le_left _ _, fun s => ?_⟩
  cases s with
  | ps => exact Nat.le_trans (Nat.min_le_right _ _) (Nat.min_le_left _ _)
  | rt => exact Nat.le_trans (Nat.min_le_right _ _) (Nat.min_le_right _ _)

theorem le_next_of_pick {time : Nat} (h : b.pick time = .input) (s : Service) :
    time ≤ (b.timers.get s).next := by
  have hready := b.readyAt_pick time
  rw [h] at hready
  exact Nat.le_trans hready ((b.soonest_le time).2 s)

theorem pick_of_lt {time : Nat} (h : ∀ s, time < (b.timers.get s).next) :
    b.pick time = .input := by
  cases hpick : b.pick time with
  | input => rfl
  | tick s => exact absurd (next_le_of_pick hpick) (Nat.not_le.2 (h s))

theorem pick_congr {σ : Type} {c : Broadcast σ} (htimers : c.timers = b.timers)
    (hdraws : c.draws 0 = b.draws 0) (time : Nat) : c.pick time = b.pick time := by
  have hready : c.readyAt time = b.readyAt time := by
    funext branch
    cases branch <;> simp only [readyAt, htimers]
  have hsoonest : c.soonest time = b.soonest time := by simp only [soonest, htimers]
  simp only [pick, hready, hsoonest, hdraws]

/-- Without input up to a later time the turn of a tick is the same tick's. -/
theorem pick_later {now time : Nat} {s : Service} (h : b.pick now = .tick s) (hle : now ≤ time) :
    b.pick time = .tick s := by
  have hnow := next_le_of_pick h
  have hsoonest : b.soonest time = b.soonest now := by
    cases s <;> simp only [Services.get] at hnow <;> simp only [soonest] <;> omega
  have htick (s : Service) : b.readyAt time (.tick s) = b.readyAt now (.tick s) := rfl
  have hinput : b.readyAt time .input ≤ b.soonest now → b.readyAt now .input ≤ b.soonest now :=
    Nat.le_trans hle
  unfold pick at h ⊢
  rw [hsoonest]
  cases hdraw : b.draws 0 with
  | input => grind [Branch.next]
  | tick s => cases s <;> grind [Branch.next]

def CaughtUp (b : Broadcast τ) (now : Nat) : Prop := ∀ s, now ≤ (b.timers.get s).next

end

variable {τ : Type} [Transmitter τ] {b : Broadcast τ}

theorem runTimers_of_input {time : Nat} (h : b.pick time = .input) : b.runTimers time = b := by
  rw [runTimers]
  split
  · rfl
  · rename_i hpick
    cases h.symm.trans hpick

theorem runTimers_of_tick {time : Nat} {s : Service} (h : b.pick time = .tick s) :
    b.runTimers time = (b.tick s).runTimers time := by
  rw [runTimers]
  split
  · rename_i hpick
    cases h.symm.trans hpick
  · rename_i hpick
    cases h.symm.trans hpick
    rfl

/-- What the ticks up to a time preserve, they preserve together. -/
theorem runTimers_invariant {P : Broadcast τ → Prop} {time : Nat}
    (htick : ∀ b s, (b.timers.get s).next ≤ time → P b → P (b.tick s)) (h : P b) :
    P (b.runTimers time) := by
  induction b using @runTimers.induct τ _ time with
  | case1 b hpick =>
    rw [runTimers_of_input hpick]
    exact h
  | case2 b s hpick ih =>
    rw [runTimers_of_tick hpick]
    exact ih (htick b s (next_le_of_pick hpick) h)

/-- Ticks up to one time and then up to a later one are ticks up to the later one. -/
theorem runTimers_runTimers (b : Broadcast τ) {now time : Nat} (h : now ≤ time) :
    (b.runTimers now).runTimers time = b.runTimers time := by
  induction b using @runTimers.induct τ _ now with
  | case1 b hpick => rw [runTimers_of_input hpick]
  | case2 b s hpick ih =>
    rw [runTimers_of_tick hpick, ih, runTimers_of_tick (pick_later hpick h)]

theorem turnTo_of_input {time : Nat} (h : b.pick time = .input) :
    b.turnTo time = b.turn := by
  rw [turnTo, runTimers_of_input h]

theorem turnTo_of_tick {time : Nat} {s : Service} (h : b.pick time = .tick s) :
    b.turnTo time = (b.tick s).turnTo time := by
  rw [turnTo, runTimers_of_tick h]
  rfl

theorem turnTo_runTimers (b : Broadcast τ) {now time : Nat} (h : now ≤ time) :
    (b.runTimers now).turnTo time = b.turnTo time := by
  rw [turnTo, runTimers_runTimers b h]
  rfl

theorem turnTo_invariant {P : Broadcast τ → Prop} {time : Nat}
    (htick : ∀ b s, (b.timers.get s).next ≤ time → P b → P (b.tick s))
    (hturn : ∀ b, P b → P b.turn) (h : P b) : P (b.turnTo time) :=
  hturn _ (runTimers_invariant htick h)

/-- A change that lets the timers, the draws and every tick alone lets the ticks up to a time
alone. -/
theorem runTimers_comm {σ : Type} [Transmitter σ] {f : Broadcast σ → Broadcast τ}
    (hpick : ∀ b time, (f b).pick time = b.pick time) (htick : ∀ b s, (f b).tick s = f (b.tick s))
    (b : Broadcast σ) (time : Nat) : (f b).runTimers time = f (b.runTimers time) := by
  induction b using @runTimers.induct σ _ time with
  | case1 b hinput =>
    rw [runTimers_of_input hinput, runTimers_of_input ((hpick b time).trans hinput)]
  | case2 b s hs ih =>
    rw [runTimers_of_tick hs, runTimers_of_tick ((hpick b time).trans hs), htick, ih]

end Broadcast
end RadioText
