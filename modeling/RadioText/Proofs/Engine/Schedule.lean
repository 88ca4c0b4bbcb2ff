import Mathlib.Data.List.Intervals
import RadioText.Engine.Broadcast

/-! When the services are due. A schedule is due at its start and then whenever a rate has passed,
for each service at its own rate. Lines that read the settings again replace it by another one, but
only where a rate changes. -/
namespace RadioText

deriving instance DecidableEq for Services

def Settings.rates (s : Settings) : Services Nat := s.services.map ServiceSettings.rate

structure Schedule where
  since : Nat
  rates : Services Nat
deriving DecidableEq

namespace Schedule

def ofSettings (s : Settings) : Schedule := ⟨0, s.rates⟩

def period (x : Schedule) (s : Service) : Nat := x.rates.get s * millisPerSecond

def Due (x : Schedule) (s : Service) (time : Nat) : Prop :=
  ∃ k, time = x.since + k * x.period s

theorem due_iff {x : Schedule} {s : Service} {time : Nat} :
    x.Due s time ↔ x.since ≤ time ∧ x.period s ∣ time - x.since := by
  constructor
  · rintro ⟨k, rfl⟩
    exact ⟨Nat.le_add_right _ _, k, by rw [Nat.add_sub_cancel_left, Nat.mul_comm]⟩
  · rintro ⟨hsince, k, hk⟩
    exact ⟨k, by rw [Nat.mul_comm, ← hk]; omega⟩

instance (x : Schedule) (s : Service) (time : Nat) : Decidable (x.Due s time) :=
  decidable_of_iff _ due_iff.symm

theorem due_since (x : Schedule) (s : Service) : x.Due s x.since := ⟨0, by simp⟩

theorem Due.add_period {x : Schedule} {s : Service} {time : Nat} (h : x.Due s time) :
    x.Due s (time + x.period s) := by
  obtain ⟨k, rfl⟩ := h
  exact ⟨k + 1, by rw [Nat.succ_mul, Nat.add_assoc]⟩

theorem Due.not_due {x : Schedule} {s : Service} {time between : Nat} (h : x.Due s time)
    (hafter : time < between) (hbefore : between < time + x.period s) : ¬ x.Due s between := by
  obtain ⟨k, rfl⟩ := h
  rintro ⟨j, rfl⟩
  have hkj : k < j := Nat.lt_of_mul_lt_mul_right (a := x.period s) (by omega)
  have hjk : j < k + 1 := Nat.lt_of_mul_lt_mul_right (a := x.period s) (by rw [Nat.succ_mul]; omega)
  omega

def instants (x : Schedule) (s : Service) (now time : Nat) : List Nat :=
  (List.Ico now time).filter fun t => x.Due s t

theorem instants_of_le (x : Schedule) (s : Service) {now time : Nat} (h : time ≤ now) :
    x.instants s now time = [] := by
  rw [instants, List.Ico.eq_nil_of_le h, List.filter_nil]

theorem instants_append (x : Schedule) (s : Service) {now mid time : Nat} (hnow : now ≤ mid)
    (htime : mid ≤ time) :
    x.instants s now time = x.instants s now mid ++ x.instants s mid time := by
  rw [instants, ← List.Ico.append_consecutive hnow htime, List.filter_append]
  rfl

theorem instants_eq_nil {x : Schedule} {s : Service} {now time : Nat}
    (h : ∀ t, now ≤ t → t < time → ¬ x.Due s t) : x.instants s now time = [] := by
  rw [instants, List.filter_eq_nil_iff]
  intro t ht
  obtain ⟨hnow, htime⟩ := List.Ico.mem.1 ht
  simpa using h t hnow htime

/-- Nothing is due before the service is due for the first time. -/
theorem instants_eq_of_not_due {x : Schedule} {s : Service} {now next time : Nat}
    (hnow : now ≤ next) (h : ∀ t, now ≤ t → t < next → ¬ x.Due s t) :
    x.instants s now time = x.instants s next time := by
  obtain hle | hle := Nat.le_total next time
  · rw [x.instants_append s hnow hle, instants_eq_nil h, List.nil_append]
  · rw [x.instants_of_le s hle]
    exact instants_eq_nil fun t hnow htime => h t hnow (Nat.lt_of_lt_of_le htime hle)

theorem Due.instants_eq_cons {x : Schedule} {s : Service} {now time : Nat} (h : x.Due s now)
    (hpos : 0 < x.period s) (hlt : now < time) :
    x.instants s now time = now :: x.instants s (now + x.period s) time := by
  have hrest : x.instants s (now + 1) time = x.instants s (now + x.period s) time :=
    instants_eq_of_not_due (by omega) fun t hnow hnext => h.not_due hnow hnext
  rw [← hrest, instants, List.Ico.eq_cons hlt, List.filter_cons_of_pos (by simpa using h)]
  rfl

theorem count_instants (x : Schedule) (s : Service) (now time t : Nat) :
    (x.instants s now time).count t = if now ≤ t ∧ t < time ∧ x.Due s t then 1 else 0 := by
  have hnodup : (x.instants s now time).Nodup := (List.Ico.nodup now time).filter _
  rw [hnodup.count]
  simp only [instants, List.mem_filter, List.Ico.mem, decide_eq_true_eq, and_assoc]

def after (x : Schedule) (time : Nat) : Except Text Settings → Schedule
  | .error _ => x
  | .ok s => if s.rates = x.rates then x else ⟨time, s.rates⟩

end Schedule

def Command.flow : Command → Flow
  | .reset => .reload true
  | .update => .reload false
  | .exit => .exit
  | _ => .proceed

def Arrival.flow? (a : Arrival) : Option Flow :=
  match a.line with
  | .error _ => none
  | .ok t =>
    match Command.read t with
    | .ok c => some c.flow
    | .error _ => some .proceed

namespace Schedule

def next? (x : Schedule) (reloads : Reloads) (a : Arrival) : Option (Schedule × Reloads) :=
  match a.flow? with
  | some .proceed => some (x, reloads)
  | some (.reload _) => some (x.after a.time reloads.next.1, reloads.next.2)
  | some .exit | none => none

def through (x : Schedule) (reloads : Reloads) : List Arrival → Schedule
  | [] => x
  | a :: rest =>
    match x.next? reloads a with
    | some (x', reloads') => x'.through reloads' rest
    | none => x

/-- A service has an instant to itself: no line is complete at that time, and the input does not end
then, while the service is due. -/
def Apart (s : Service) (time close : Nat) (x : Schedule) (reloads : Reloads) :
    List Arrival → Prop
  | [] => close = time → ¬ x.Due s time
  | a :: rest => (a.time = time → ¬ x.Due s time) ∧
    match x.next? reloads a with
    | some (x', reloads') => Apart s time close x' reloads' rest
    | none => True

instance decidableApart (s : Service) (time close : Nat) (x : Schedule) (reloads : Reloads) :
    (arrivals : List Arrival) → Decidable (Apart s time close x reloads arrivals)
  | [] => inferInstanceAs (Decidable (close = time → ¬ x.Due s time))
  | a :: rest =>
    have : Decidable (match x.next? reloads a with
        | some (x', reloads') => Apart s time close x' reloads' rest
        | none => True) :=
      match x.next? reloads a with
      | some (x', reloads') => decidableApart s time close x' reloads' rest
      | none => isTrue trivial
    inferInstanceAs (Decidable ((a.time = time → ¬ x.Due s time) ∧ _))

/-- How many schedules have a service due at a time at which they are in force. A schedule that is
replaced at that time is in force until then. -/
def dues (s : Service) (time : Nat) (x : Schedule) (reloads : Reloads) : List Arrival → Nat
  | [] => if x.Due s time then 1 else 0
  | a :: rest =>
    match x.next? reloads a with
    | some (x', reloads') =>
      (if x' ≠ x ∧ time ≤ a.time ∧ x.Due s time then 1 else 0) + dues s time x' reloads' rest
    | none => if x.Due s time then 1 else 0

end Schedule

def Arrival.upTo (time : Nat) (arrivals : List Arrival) : List Arrival :=
  arrivals.filter fun a => a.time ≤ time

namespace Arrival

theorem upTo_cons {a : Arrival} {time : Nat} (h : a.time ≤ time) (rest : List Arrival) :
    upTo time (a :: rest) = a :: upTo time rest :=
  List.filter_cons_of_pos (by simpa using h)

theorem upTo_eq_nil {arrivals : List Arrival} {time next : Nat} (hlt : time < next)
    (h : ∀ a ∈ arrivals, next ≤ a.time) : upTo time arrivals = [] := by
  rw [upTo, List.filter_eq_nil_iff]
  intro a ha
  simpa using Nat.lt_of_lt_of_le hlt (h a ha)

/-- What lines can be handled at a time: those of before, and then one more after the other. -/
def stages (time : Nat) : List Arrival → List (List Arrival)
  | [] => [[]]
  | a :: rest =>
    (if time ≤ a.time then [[]] else []) ++
      if a.time ≤ time then (stages time rest).map (a :: ·) else []

theorem nil_mem_stages {arrivals : List Arrival} {time next : Nat} (hle : time ≤ next)
    (h : ∀ a ∈ arrivals, next ≤ a.time) : [] ∈ stages time arrivals := by
  cases arrivals with
  | nil => exact List.mem_singleton_self _
  | cons a rest =>
    rw [stages, if_pos (Nat.le_trans hle (h a List.mem_cons_self))]
    exact List.mem_append_left _ (List.mem_singleton_self _)

theorem cons_mem_stages {a : Arrival} {time : Nat} (h : a.time ≤ time) {done rest : List Arrival}
    (hdone : done ∈ stages time rest) : a :: done ∈ stages time (a :: rest) := by
  rw [stages, if_pos h]
  exact List.mem_append_right _ (List.mem_map_of_mem hdone)

end Arrival

end RadioText
