import RadioText.Style.Template

/-! A walk visits the segments of a group in reading order, and those of a subgroup between its
`enter` and its `leave`. The list of groups still open, by which `Group.walk` keeps its place, does
not show in the visits. -/
namespace RadioText

/-- Induction on a group from its front, where a subgroup gives a second hypothesis. -/
@[elab_as_elim]
theorem Group.induction {motive : Group → Prop} (nil : motive [])
    (literal : ∀ t g, motive g → motive (.literal t :: g))
    (field : ∀ k g, motive g → motive (.field k :: g))
    (subgroup : ∀ inner g, motive inner → motive g → motive (.subgroup inner :: g)) :
    ∀ g, motive g
  | [] => nil
  | .literal t :: g => literal t g (induction nil literal field subgroup g)
  | .field k :: g => field k g (induction nil literal field subgroup g)
  | .subgroup inner :: g =>
    subgroup inner g (induction nil literal field subgroup inner)
      (induction nil literal field subgroup g)

mutual

def Segment.trail : Segment → List Visit
  | .literal t => [.literal t]
  | .field k => [.field k]
  | .subgroup inner => .enter :: Segment.trails inner ++ [.leave]

def Segment.trails : List Segment → List Visit
  | [] => []
  | s :: g => s.trail ++ Segment.trails g

end

namespace Group

theorem walk_eq (g : Group) (pending : List Group) (seen : List Visit) :
    walk g pending seen = seen.reverse ++ Segment.trails g ++
      pending.flatMap fun outer => .leave :: Segment.trails outer := by
  induction g, pending, seen using walk.induct with
  | case1 seen => simp [walk, Segment.trails]
  | case2 outer pending seen ih => simp [walk, Segment.trails, ih]
  | case3 t g pending seen ih => simp [walk, Segment.trails, Segment.trail, ih]
  | case4 k g pending seen ih => simp [walk, Segment.trails, Segment.trail, ih]
  | case5 inner g pending seen ih => simp [walk, Segment.trails, Segment.trail, ih]

theorem visits_eq (g : Group) : g.visits = Segment.trails g := by
  simp [visits, walk_eq]

@[simp] theorem visits_nil : visits [] = [] := by
  simp [visits_eq, Segment.trails]

@[simp] theorem visits_literal (t : Text) (g : Group) :
    visits (.literal t :: g) = .literal t :: visits g := by
  simp [visits_eq, Segment.trails, Segment.trail]

@[simp] theorem visits_field (k : Field) (g : Group) :
    visits (.field k :: g) = .field k :: visits g := by
  simp [visits_eq, Segment.trails, Segment.trail]

@[simp] theorem visits_subgroup (inner g : Group) :
    visits (.subgroup inner :: g) = .enter :: visits inner ++ .leave :: visits g := by
  simp [visits_eq, Segment.trails, Segment.trail]

theorem visits_append (g h : Group) : visits (g ++ h) = visits g ++ visits h := by
  induction g using Group.induction with
  | nil => simp
  | literal t g ih => simp [ih]
  | field k g ih => simp [ih]
  | subgroup inner g _ ih => simp [ih]

end Group
end RadioText
