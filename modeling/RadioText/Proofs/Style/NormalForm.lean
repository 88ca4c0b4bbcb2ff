import RadioText.Style.Template

/-! Groups in normal form: literals say something, and text that belongs together is one literal.
`Group.withText` puts text in front of a group and keeps it so. -/
namespace RadioText.Group

inductive Normal : Group → Prop
  | nil : Normal []
  | literal {t : Text} {g : Group} (ht : t ≠ []) (hg : ∀ u rest, g ≠ .literal u :: rest) :
    Normal g → Normal (.literal t :: g)
  | field {k : Field} {g : Group} : Normal g → Normal (.field k :: g)
  | subgroup {inner g : Group} : Normal inner → Normal g → Normal (.subgroup inner :: g)

def withText (t : Text) (g : Group) : Group :=
  if t = [] then g
  else match g with
    | .literal u :: rest => .literal (t ++ u) :: rest
    | g => .literal t :: g

@[simp] theorem withText_nil (g : Group) : withText [] g = g := rfl

theorem withText_literal {t : Text} (ht : t ≠ []) (u : Text) (g : Group) :
    withText t (.literal u :: g) = .literal (t ++ u) :: g := by
  simp [withText, ht]

theorem withText_of_ne_literal {t : Text} {g : Group} (ht : t ≠ [])
    (hg : ∀ u rest, g ≠ .literal u :: rest) : withText t g = .literal t :: g := by
  match g with
  | .literal u :: rest => exact absurd rfl (hg u rest)
  | [] | .field _ :: _ | .subgroup _ :: _ => simp [withText, ht]

theorem withText_withText (t u : Text) (g : Group) :
    withText t (withText u g) = withText (t ++ u) g := by
  by_cases ht : t = []
  · simp [ht]
  by_cases hu : u = []
  · simp [hu]
  have htu : t ++ u ≠ [] := by simp [ht]
  match g with
  | .literal v :: g => simp [withText_literal, ht, hu]
  | [] | .field _ :: _ | .subgroup _ :: _ => simp [withText, ht, hu]

theorem Normal.withText {g : Group} (h : Normal g) (t : Text) : Normal (g.withText t) := by
  by_cases ht : t = []
  · simpa [ht] using h
  have front (hg : ∀ u rest, g ≠ .literal u :: rest) : Normal (g.withText t) := by
    rw [withText_of_ne_literal ht hg]
    exact .literal ht hg h
  cases h with
  | literal hu hg h =>
    rw [withText_literal ht]
    exact .literal (by simp [ht]) hg h
  | nil => exact front (by simp)
  | field _ => exact front (by simp)
  | subgroup _ _ => exact front (by simp)

end RadioText.Group
