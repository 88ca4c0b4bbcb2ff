import Mathlib.Data.List.DropRight
import Mathlib.Data.List.Rotate
import RadioText.Rotation

/-! Lines in turn. A rotation shows its lines one after the other, round and round, and the first of
them again once it has started over; without lines it shows its fallback. So as many lines as there
are, shown in a row, are all of them and each once, and there is always one more. -/
namespace RadioText

def turnText (fallback : Text) (lines : List Text) (k : Nat) : Text :=
  (lines[k % lines.length]?).getD fallback

namespace Rotation

def place (r : Rotation) : List Text × Nat := (r.lines, r.position)

@[simp] theorem lines_advance (r : Rotation) : r.advance.lines = r.lines := by
  unfold advance
  split <;> rfl

theorem position_advance {r : Rotation} (h : r.lines ≠ []) :
    r.advance.position = (r.position + 1) % r.lines.length := by
  rw [advance, if_neg (by simpa using h)]

theorem advance_of_nil {r : Rotation} (h : r.lines = []) : r.advance = r := by
  rw [advance, if_pos (by simpa using h)]

theorem current_of_nil {r : Rotation} (h : r.lines = []) : r.current = r.fallback := by
  rw [current, if_pos (by simpa using h)]

def AtTurn (r : Rotation) (k : Nat) : Prop := r.lines ≠ [] → r.position = k % r.lines.length

theorem AtTurn.current {r : Rotation} {k : Nat} (h : r.AtTurn k) :
    r.current = turnText r.fallback r.lines k := by
  by_cases hl : r.lines = []
  · simp [Rotation.current, turnText, hl]
  · have hlt : k % r.lines.length < r.lines.length := Nat.mod_lt _ (List.length_pos_iff.2 hl)
    simp [Rotation.current, turnText, hl, h hl, List.getElem?_eq_getElem hlt]

theorem AtTurn.of_place {r r' : Rotation} {k : Nat} (h : r.AtTurn k) (hp : r'.place = r.place) :
    r'.AtTurn k := by
  obtain ⟨hlines, hposition⟩ := Prod.mk.inj hp
  rw [AtTurn, hlines, hposition]
  exact h

theorem AtTurn.advance {r : Rotation} {k : Nat} (h : r.AtTurn k) : r.advance.AtTurn (k + 1) := by
  intro hl
  rw [lines_advance] at hl ⊢
  rw [position_advance hl, h hl, Nat.mod_add_mod]

theorem AtTurn.first {r : Rotation} (h : r.position = 0) : r.AtTurn 0 := by
  intro _
  rw [h, Nat.zero_mod]

def Within (r : Rotation) : Prop :=
  if r.lines = [] then r.position = 0 else r.position < r.lines.length

theorem Within.position_lt {r : Rotation} (h : r.Within) (hl : r.lines ≠ []) :
    r.position < r.lines.length := by
  rwa [Within, if_neg hl] at h

theorem Within.of_place {r r' : Rotation} (h : r.Within) (hp : r'.place = r.place) :
    r'.Within := by
  obtain ⟨hlines, hposition⟩ := Prod.mk.inj hp
  rw [Within, hlines, hposition]
  exact h

theorem Within.first {r : Rotation} (h : r.position = 0) : r.Within := by
  unfold Within
  split
  · exact h
  · rw [h]
    exact List.length_pos_iff.2 ‹_›

theorem Within.advance {r : Rotation} (h : r.Within) : r.advance.Within := by
  by_cases hl : r.lines = []
  · rwa [advance_of_nil hl]
  · rw [Within, lines_advance, if_neg hl, position_advance hl]
    exact Nat.mod_lt _ (List.length_pos_iff.2 hl)

inductive Use
  /-- It is made anew, with these lines and without a fallback. -/
  | ofLines (lines : List Text)
  | withFallback (t : Text)
  | update (lines : List Text)
  | restart
  /-- The next line is shown. -/
  | next
deriving DecidableEq

namespace Use

def lines? : Use → Option (List Text)
  | ofLines lines | update lines => some lines
  | _ => none

def fallback? : Use → Option Text
  | ofLines _ => some []
  | withFallback t => some t
  | _ => none

def startsOver : Use → Bool
  | ofLines _ | update _ | restart => true
  | withFallback _ | next => false

end Use

def after (r : Rotation) : Use → Rotation
  | .ofLines lines => .ofLines lines
  | .withFallback t => r.withFallback t
  | .update lines => r.update lines
  | .restart => r.restart
  | .next => r.next.2

def through (r : Rotation) (uses : List Use) : Rotation := uses.foldl after r

def shown (r : Rotation) : List Use → List (Text × Nat)
  | [] => []
  | .next :: uses => (r.next.1, r.position) :: (r.after .next).shown uses
  | u :: uses => (r.after u).shown uses

def turns (uses : List Use) : Nat := (uses.rtakeWhile fun u => !u.startsOver).count .next

def items (r : Rotation) : Nat → List Text
  | 0 => []
  | n + 1 =>
    match r.item? with
    | none => []
    | some (t, rest) => t :: rest.items n

theorem through_concat (r : Rotation) (uses : List Use) (u : Use) :
    r.through (uses ++ [u]) = (r.through uses).after u := by
  rw [through, List.foldl_append]
  rfl

theorem lines_after (r : Rotation) (u : Use) : (r.after u).lines = u.lines?.getD r.lines := by
  cases u with
  | next => exact r.lines_advance
  | _ => rfl

theorem fallback_after (r : Rotation) (u : Use) :
    (r.after u).fallback = u.fallback?.getD r.fallback := by
  cases u with
  | next =>
    change r.advance.fallback = r.fallback
    unfold advance
    split <;> rfl
  | _ => rfl

theorem position_after {r : Rotation} {u : Use} (h : u.startsOver = true) :
    (r.after u).position = 0 := by
  cases u with
  | ofLines | update | restart => rfl
  | withFallback | next => cases h

/-- What the uses bring, the last of them that brings any decides. -/
theorem eq_getLast?_of_after {α : Type} {f : Rotation → α} {g : Use → Option α}
    (h : ∀ r u, f (r.after u) = (g u).getD (f r)) (r : Rotation) (uses : List Use) :
    f (r.through uses) = ((uses.filterMap g).getLast?).getD (f r) := by
  induction uses using List.reverseRecOn with
  | nil => rfl
  | append_singleton uses u ih =>
    rw [through_concat, h, ih, List.filterMap_append]
    cases hu : g u <;> simp [hu]

theorem turns_concat_of_startsOver (uses : List Use) {u : Use} (h : u.startsOver = true) :
    turns (uses ++ [u]) = 0 := by
  rw [turns, List.rtakeWhile_concat_neg _ _ _ (by simp [h]), List.count_nil]

theorem turns_concat (uses : List Use) {u : Use} (h : u.startsOver = false) :
    turns (uses ++ [u]) = turns uses + [u].count .next := by
  rw [turns, List.rtakeWhile_concat_pos _ _ _ (by simp [h]), List.count_append]
  rfl

theorem atTurn_through {r : Rotation} (h : r.position = 0) (uses : List Use) :
    (r.through uses).AtTurn (turns uses) := by
  induction uses using List.reverseRecOn with
  | nil => exact .first h
  | append_singleton uses u ih =>
    rw [through_concat]
    by_cases hu : u.startsOver = true
    · rw [turns_concat_of_startsOver uses hu]
      exact .first (position_after hu)
    · rw [turns_concat uses (by simpa using hu)]
      cases u with
      | next => exact ih.advance
      | withFallback => exact ih.of_place rfl
      | ofLines | update | restart => exact absurd rfl hu

theorem Within.after {r : Rotation} (h : r.Within) (u : Use) : (r.after u).Within := by
  cases u with
  | ofLines | update | restart => exact .first rfl
  | withFallback => exact h.of_place rfl
  | next => exact h.advance

theorem Within.through {r : Rotation} (h : r.Within) (uses : List Use) :
    (r.through uses).Within := by
  induction uses generalizing r with
  | nil => exact h
  | cons u uses ih => exact ih (h.after u)

/-- The lines from a place on begin with the one there; without it, and with it at the end, they are
the lines from the next place on. -/
theorem rotate_eq_cons {α : Type} {l : List α} {i : Nat} (h : i < l.length) :
    ∃ rest, l.rotate i = l[i] :: rest ∧ l.rotate ((i + 1) % l.length) = rest ++ [l[i]] := by
  have hdrop : l.rotate i = l[i] :: (l.drop (i + 1) ++ l.take i) := by
    rw [List.rotate_eq_drop_append_take (Nat.le_of_lt h), List.drop_eq_getElem_cons h,
      List.cons_append]
  refine ⟨_, hdrop, ?_⟩
  rw [List.rotate_mod, ← List.rotate_rotate, hdrop, List.rotate_cons_succ, List.rotate_zero]

/-- As long as the rotation does not start over, it shows its lines from its place on. -/
theorem shown_eq_take {r : Rotation} (h : r.Within) {between : List Use}
    (hkeep : ∀ u ∈ between, u.startsOver = false)
    (hcount : between.count .next ≤ r.lines.length) :
    r.shown between = (r.lines.zipIdx.rotate r.position).take (between.count .next) := by
  induction between generalizing r with
  | nil => rfl
  | cons u between ih =>
    have hrest : ∀ v ∈ between, v.startsOver = false := fun v hv =>
      hkeep v (List.mem_cons_of_mem _ hv)
    cases u with
    | ofLines | update | restart => cases hkeep _ List.mem_cons_self
    | withFallback t => exact ih (r := r.withFallback t) (h.of_place rfl) hrest hcount
    | next =>
      rw [List.count_cons_self] at hcount ⊢
      have hl : r.lines ≠ [] := List.length_pos_iff.1 (by omega)
      have hlt : r.position < r.lines.zipIdx.length := by simpa using h.position_lt hl
      obtain ⟨rest, hhere, hnext⟩ := rotate_eq_cons hlt
      have hlater := ih (r := r.advance) h.advance hrest (by rw [lines_advance]; omega)
      have hlength : rest.length + 1 = r.lines.length := by
        simpa using (congrArg List.length hhere).symm
      have hline : r.lines.zipIdx[r.position] = (r.current, r.position) := by
        simp [current, hl, h.position_lt hl]
      rw [List.length_zipIdx] at hnext
      rw [lines_advance, position_advance hl, hnext,
        List.take_append_of_le_length (by omega)] at hlater
      rw [hhere, hline, List.take_succ_cons, ← hlater]
      rfl

theorem items_eq (r : Rotation) (n : Nat) :
    r.items n = (r.shown (List.replicate n .next)).map Prod.fst := by
  induction n generalizing r with
  | zero => rfl
  | succ n ih => exact congrArg (r.current :: ·) (ih r.advance)

theorem length_shown (r : Rotation) (n : Nat) :
    (r.shown (List.replicate n .next)).length = n := by
  induction n generalizing r with
  | zero => rfl
  | succ n ih => exact congrArg (· + 1) (ih r.advance)

theorem take_eq (r : Rotation) (n : Nat) :
    r.take n = (r.items n, r.through (List.replicate n .next)) := by
  induction n generalizing r with
  | zero => rfl
  | succ n ih =>
    rw [take, ih r.advance]
    rfl

/-- Whatever is done with a rotation, its lines and its fallback are the last it was given. Its place
is one of the lines, or the first place if there are none. The next line is that of turn `k`, where
`k` lines were shown since it last started over, and without lines the fallback. As many lines as
there are, shown without starting over in between, are all of the lines and each once. And however
many items are asked for, there are as many, the lines shown one after the other. -/
theorem shown_in_turn (uses : List Use) :
    let r := ({} : Rotation).through uses
    let k := turns uses
    (r.lines = (uses.filterMap Use.lines?).getLast?.getD [] ∧
      r.fallback = (uses.filterMap Use.fallback?).getLast?.getD []) ∧
    (if r.lines = [] then r.position = 0 else r.position < r.lines.length) ∧
    (r.lines ≠ [] → r.lines[k % r.lines.length]? = some r.next.1) ∧
    (r.lines = [] → r.next.1 = r.fallback) ∧
    (∀ between : List Use, (∀ u ∈ between, u.startsOver = false) →
      between.count .next = r.lines.length → (r.shown between).Perm r.lines.zipIdx) ∧
    ∀ n, (r.items n).length = n ∧
      r.items n = (r.shown (List.replicate n .next)).map Prod.fst ∧
      r.take n = (r.items n, r.through (List.replicate n .next)) := by
  intro r k
  have hwithin : r.Within := Within.through (.first rfl) uses
  have hturn : r.AtTurn k := atTurn_through rfl uses
  refine ⟨⟨eq_getLast?_of_after lines_after _ uses, eq_getLast?_of_after fallback_after _ uses⟩,
    hwithin, fun hl => ?_, current_of_nil, fun between hkeep hcount => ?_,
    fun n => ⟨?_, items_eq r n, take_eq r n⟩⟩
  · have hlt : k % r.lines.length < r.lines.length := Nat.mod_lt _ (List.length_pos_iff.2 hl)
    change _ = some r.current
    rw [hturn.current, turnText, List.getElem?_eq_getElem hlt, Option.getD_some]
  · have hall : (r.lines.zipIdx.rotate r.position).take r.lines.length =
        r.lines.zipIdx.rotate r.position := List.take_of_length_le (by simp)
    rw [shown_eq_take hwithin hkeep (Nat.le_of_eq hcount), hcount, hall]
    exact List.rotate_perm _ _
  · rw [items_eq, List.length_map, length_shown]

/-- Three lines give way to two in the middle of them. One of these is shown, then both, with another
fallback in between; at last there are none. -/
theorem shown_in_turn_shorter :
    let uses : List Use :=
      [.ofLines [['a'], ['b'], ['c']], .next, .next, .update [['x'], ['y']], .next]
    let between : List Use := [.next, .withFallback ['f'], .next]
    let r := ({} : Rotation).through uses
    let emptied := ({} : Rotation).through (uses ++ between ++ [.update []])
    r.lines = [['x'], ['y']] ∧ turns uses = 1 ∧
      r.lines[1 % 2]? = some r.next.1 ∧
      r.shown between = [(['y'], 1), (['x'], 0)] ∧ (r.shown between).Perm r.lines.zipIdx ∧
      emptied.lines = [] ∧ emptied.fallback = ['f'] ∧ emptied.next.1 = emptied.fallback := by
  intro uses between r emptied
  have hlines : r.lines = [['x'], ['y']] := rfl
  have hemptied : emptied.lines = [] := rfl
  obtain ⟨_, _, hnext, _, hshown, _⟩ := shown_in_turn uses
  obtain ⟨_, _, _, hfallback, _⟩ := shown_in_turn (uses ++ between ++ [.update []])
  exact ⟨hlines, rfl, hnext (by decide), by decide +kernel, hshown between (by decide) rfl, hemptied,
    rfl, hfallback hemptied⟩

end Rotation
end RadioText
