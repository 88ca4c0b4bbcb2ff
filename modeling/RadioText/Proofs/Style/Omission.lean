import RadioText.Style.Evaluation
import RadioText.Proofs.Style.Walk

/-! What a group shows, said by recursion on its tree: a subgroup shows nothing if one of its own
fields has no value, and no such omission reaches the groups around it. Rendering writes exactly
this text. All open groups share one buffer; a subgroup that is left out is undone by cutting the
buffer back to the length it had when the subgroup was entered. -/
namespace RadioText

/-- Every field among the segments of a group has a value; fields inside its subgroups do not
count. -/
def Group.complete (m : Metadata) (g : Group) : Bool :=
  g.all fun
    | .field k => (m.value? k).isSome
    | _ => true

mutual

def Segment.shown (m : Metadata) : Segment → Text
  | .literal t => t
  | .field k => (m.value? k).getD []
  | .subgroup inner => if Group.complete m inner then Segment.shownAll m inner else []

def Segment.shownAll (m : Metadata) : List Segment → Text
  | [] => []
  | s :: g => s.shown m ++ Segment.shownAll m g

end

/-- The text of a group that is a line of its own: nothing of it is left out for a field. -/
def Group.shown (m : Metadata) (g : Group) : Text := Segment.shownAll m g

namespace Group

theorem complete_iff (m : Metadata) (g : Group) :
    g.complete m = true ↔ ∀ k, Segment.field k ∈ g → (m.value? k).isSome := by
  simp only [complete, List.all_eq_true]
  constructor
  · intro h k hk
    exact h (.field k) hk
  · intro h s hs
    cases s with
    | field k => exact h k hs
    | literal t => rfl
    | subgroup inner => rfl

@[simp] theorem complete_nil (m : Metadata) : complete m [] = true := rfl

@[simp] theorem complete_literal (m : Metadata) (t : Text) (g : Group) :
    complete m (.literal t :: g) = complete m g := rfl

@[simp] theorem complete_field (m : Metadata) (k : Field) (g : Group) :
    complete m (.field k :: g) = ((m.value? k).isSome && complete m g) := rfl

@[simp] theorem complete_subgroup (m : Metadata) (inner g : Group) :
    complete m (.subgroup inner :: g) = complete m g := rfl

@[simp] theorem shown_nil (m : Metadata) : shown m [] = [] := rfl

@[simp] theorem shown_literal (m : Metadata) (t : Text) (g : Group) :
    shown m (.literal t :: g) = t ++ shown m g := rfl

@[simp] theorem shown_field (m : Metadata) (k : Field) (g : Group) :
    shown m (.field k :: g) = (m.value? k).getD [] ++ shown m g := rfl

@[simp] theorem shown_subgroup (m : Metadata) (inner g : Group) :
    shown m (.subgroup inner :: g) =
      (if inner.complete m then inner.shown m else []) ++ shown m g := rfl

end Group

namespace Rendering

theorem shrink_append (out : Array Char) (t : Text) : (out ++ t).shrink out.size = out := by
  apply Array.ext'
  rw [Array.toList_shrink, Array.toList_appendList]
  exact List.take_left' (by simp)

theorem append_append (out : Array Char) (t u : Text) : out ++ t ++ u = out ++ (t ++ u) := by
  apply Array.ext'
  simp

/-- The visits of a group leave every open group as it was, except that the innermost one has a
value missing if one of the group's own fields has none. -/
theorem foldl_visits (m : Metadata) (g : Group) (r : Rendering) :
    g.visits.foldl (step m) r =
      ⟨r.out ++ g.shown m, ⟨r.innermost.mark, r.innermost.satisfied && g.complete m⟩,
        r.enclosing⟩ := by
  induction g using Group.induction generalizing r with
  | nil => simp
  | literal t g ih => simp [step, append, ih, append_append]
  | field k g ih => cases hv : m.value? k <;> simp [step, append, ih, hv, append_append]
  | subgroup inner g ihInner ih =>
    simp only [Group.visits_subgroup, List.foldl_append, List.foldl_cons, step, ihInner, ih,
      Bool.true_and, Group.shown_subgroup, Group.complete_subgroup]
    -- The mark of the subgroup is the length of the buffer at its `enter`.
    cases hc : inner.complete m with
    | false => simp [-Array.shrink_eq_take, shrink_append]
    | true => simp [append_append]

end Rendering

theorem Group.render_eq (g : Group) (m : Metadata) (before : Text) :
    g.render m before = (before ++ g.shown m, g.complete m) := by
  simp [render, Rendering.foldl_visits]

theorem Group.line?_eq (g : Group) (m : Metadata) :
    g.line? m = Option.guard (fun text => text.any (!isBlank ·)) (g.shown m) := by
  simp only [line?, render_eq, List.nil_append, Text.blank, Option.guard]
  by_cases h : (g.shown m).all isBlank
  · have hn : ¬(g.shown m).any (!isBlank ·) := by simpa using h
    rw [if_pos h, if_neg hn]
  · have hn : (g.shown m).any (!isBlank ·) := by simpa using h
    rw [if_neg h, if_pos hn]

/-- Rendering appends the text of the group to any buffer and answers whether the group's own
fields all have values; the lines of a template are the texts of its groups that show something. -/
theorem render_and_evaluate (m : Metadata) :
    (∀ (g : Group) (before : Text),
      (g.render m before).1 = before ++ g.shown m ∧
      ((g.render m before).2 = true ↔ ∀ k, Segment.field k ∈ g → (m.value? k).isSome)) ∧
    ∀ t : Template,
      t.evaluate m = (t.groups.map (Group.shown m)).filter fun text => text.any (!isBlank ·) := by
  refine ⟨fun g before => ⟨by rw [Group.render_eq], ?_⟩, fun t => ?_⟩
  · rw [Group.render_eq]
    exact Group.complete_iff m g
  · rw [Template.evaluate, ← List.filterMap_eq_filter, List.filterMap_map]
    congr 1
    funext g
    exact Group.line?_eq g m

end RadioText
