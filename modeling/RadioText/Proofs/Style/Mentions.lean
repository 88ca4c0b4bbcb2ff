import Mathlib.Data.List.Basic
import RadioText.Proofs.Style.Omission

/-! Which values a text depends on. The fields of a group stand in reading order, those of a
subgroup in its place. A value of any other field shows nowhere: it is not written, and no subgroup
is left out for it. -/
namespace RadioText

mutual

def Segment.mentions : Segment → List Field
  | .literal _ => []
  | .field k => [k]
  | .subgroup inner => Segment.mentionsAll inner

def Segment.mentionsAll : List Segment → List Field
  | [] => []
  | s :: g => s.mentions ++ Segment.mentionsAll g

end

theorem Metadata.value?_assign_of_ne {j k : Field} (h : j ≠ k) (m : Metadata) (v : Option Text) :
    (m.assign k v).value? j = m.value? j := by
  rw [value?, stored_assign, if_neg h]
  rfl

namespace Group

@[simp] theorem fields_nil : fields [] = [] := by
  simp [fields]

@[simp] theorem fields_literal (t : Text) (g : Group) : fields (.literal t :: g) = fields g := by
  simp [fields]

@[simp] theorem fields_field (k : Field) (g : Group) : fields (.field k :: g) = k :: fields g := by
  simp [fields]

@[simp] theorem fields_subgroup (inner g : Group) :
    fields (.subgroup inner :: g) = fields inner ++ fields g := by
  simp [fields]

theorem fields_eq (g : Group) : g.fields = Segment.mentionsAll g := by
  induction g using Group.induction with
  | nil => simp [Segment.mentionsAll]
  | literal t g ih => simp [Segment.mentionsAll, Segment.mentions, ih]
  | field k g ih => simp [Segment.mentionsAll, Segment.mentions, ih]
  | subgroup inner g ihInner ih => simp [Segment.mentionsAll, Segment.mentions, ihInner, ih]

theorem mem_fields_of_mem {k : Field} {g : Group} (h : Segment.field k ∈ g) : k ∈ g.fields := by
  induction g using Group.induction with
  | nil => cases h
  | literal t g ih => simpa using ih (by simpa using h)
  | field j g ih =>
    obtain heq | h := List.mem_cons.1 h
    · cases heq
      simp
    · simp [ih h]
  | subgroup inner g _ ih => simp [ih (by simpa using h)]

variable {m m' : Metadata}

theorem complete_congr {g : Group} (h : ∀ k ∈ g.fields, m.value? k = m'.value? k) :
    g.complete m = g.complete m' := by
  rw [Bool.eq_iff_iff, complete_iff, complete_iff]
  refine forall₂_congr fun k hk => ?_
  rw [h k (mem_fields_of_mem hk)]

theorem shown_congr {g : Group} (h : ∀ k ∈ g.fields, m.value? k = m'.value? k) :
    g.shown m = g.shown m' := by
  induction g using Group.induction with
  | nil => rfl
  | literal t g ih =>
    rw [fields_literal] at h
    rw [shown_literal, shown_literal, ih h]
  | field k g ih =>
    obtain ⟨hk, hrest⟩ := List.forall_mem_cons.1 (fields_field k g ▸ h)
    rw [shown_field, shown_field, hk, ih hrest]
  | subgroup inner g ihInner ih =>
    obtain ⟨hinner, hrest⟩ := List.forall_mem_append.1 (fields_subgroup inner g ▸ h)
    -- Whether the subgroup is left out depends on its fields, and so does what it shows.
    rw [shown_subgroup, shown_subgroup, complete_congr hinner, ihInner hinner, ih hrest]

theorem line?_congr {g : Group} (h : ∀ k ∈ g.fields, m.value? k = m'.value? k) :
    g.line? m = g.line? m' := by
  rw [line?_eq, line?_eq, shown_congr h]

end Group

/-- The fields of a group are all the fields in its tree, in reading order and with repetitions. A
template gives the same lines for all metadata in which the fields of its groups have the same
values; so no other field has a part in the line of a group. -/
theorem evaluate_congr :
    (∀ g : Group, g.fields = Segment.mentionsAll g) ∧
    (∀ (t : Template) (m m' : Metadata),
      (∀ g ∈ t.groups, ∀ k ∈ g.fields, m.value? k = m'.value? k) →
        t.evaluate m = t.evaluate m') ∧
    ∀ (g : Group) (k : Field), k ∉ g.fields → ∀ (m : Metadata) (v : Option Text),
      g.line? (m.assign k v) = g.line? m := by
  refine ⟨Group.fields_eq, fun t m m' h => ?_, fun g k hk m v => ?_⟩
  · exact List.filterMap_congr fun g hg => Group.line?_congr (h g hg)
  · refine Group.line?_congr fun j hj => Metadata.value?_assign_of_ne ?_ m v
    rintro rfl
    exact hk hj

/-- An album and a genre become known, and a template that has neither keeps its lines; a title
becomes known too, and it has its place in them. -/
theorem evaluate_congr_album :
    let m : Metadata := { artist := some ['X'], trackNumber := some ['3'] }
    let m' : Metadata := { m with album := some ['Y'], genre := some ['Z'] }
    let g : Group := [.field .artist, .subgroup [.literal ['-'], .field .title,
      .subgroup [.field .artist]]]
    let t : Template := ⟨[], [g, [.field .trackNumber]]⟩
    (∀ h ∈ t.groups, ∀ k ∈ h.fields, m.value? k = m'.value? k) ∧
      t.evaluate m = [['X'], ['3']] ∧ t.evaluate m' = [['X'], ['3']] ∧
      g.fields = [.artist, .title, .artist] ∧ Field.album ∉ g.fields ∧
      g.line? (m.assign .album (some ['Y'])) = some ['X'] ∧
      g.line? (m.assign .title (some ['T'])) = some ['X', '-', 'T', 'X'] := by
  intro m m' g t
  obtain ⟨hfields, hsame, hother⟩ := evaluate_congr
  have hagree : ∀ h ∈ t.groups, ∀ k ∈ h.fields, m.value? k = m'.value? k := by
    simp [t, g, m', Metadata.value?, Metadata.stored]
  have hlines : t.evaluate m = [['X'], ['3']] := by
    simp only [Template.evaluate, Group.line?_eq]
    rfl
  have hlisted : g.fields = [.artist, .title, .artist] := hfields g
  have halbum : Field.album ∉ g.fields := by simp [hlisted]
  have hline : g.line? m = some ['X'] := by
    rw [Group.line?_eq]
    rfl
  refine ⟨hagree, hlines, (hsame t m m' hagree).symm.trans hlines, hlisted, halbum,
    (hother g .album halbum m _).trans hline, ?_⟩
  rw [Group.line?_eq]
  rfl

end RadioText
