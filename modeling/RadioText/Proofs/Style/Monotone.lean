import Mathlib.Data.List.Forall2
import RadioText.Proofs.Style.Omission

/-! More metadata never takes text away. With more values known, each subgroup that was shown is
shown still, and what a group shows grows by characters put in between; so no line disappears, and
the lines stay in their order. -/
namespace RadioText

def Metadata.Within (m m' : Metadata) : Prop :=
  ∀ k v, m.value? k = some v → m'.value? k = some v

namespace Group

variable {m m' : Metadata}

theorem complete_of_within (h : m.Within m') {g : Group} (hg : g.complete m = true) :
    g.complete m' = true := by
  rw [complete_iff] at hg ⊢
  intro k hk
  obtain ⟨v, hv⟩ := Option.isSome_iff_exists.1 (hg k hk)
  rw [h k v hv]
  rfl

theorem shown_sublist (h : m.Within m') (g : Group) : (g.shown m).Sublist (g.shown m') := by
  induction g using Group.induction with
  | nil => exact .slnil
  | literal t g ih => exact (List.Sublist.refl t).append ih
  | field k g ih =>
    rw [shown_field, shown_field]
    cases hv : m.value? k with
    | none => exact (List.nil_sublist _).append ih
    | some v =>
      rw [h k v hv]
      exact (List.Sublist.refl v).append ih
  | subgroup inner g ihInner ih =>
    rw [shown_subgroup, shown_subgroup]
    by_cases hc : inner.complete m = true
    · rw [if_pos hc, if_pos (complete_of_within h hc)]
      exact ihInner.append ih
    · rw [if_neg hc]
      exact (List.nil_sublist _).append ih

/-- A line does not become blank: the characters that made it a line are still there. -/
theorem exists_line? (h : m.Within m') (g : Group) {line : Text} (hl : g.line? m = some line) :
    ∃ line', g.line? m' = some line' ∧ line.Sublist line' := by
  rw [line?_eq, Option.guard_eq_some_iff] at hl
  obtain ⟨rfl, hany⟩ := hl
  have hsub := shown_sublist h g
  refine ⟨g.shown m', ?_, hsub⟩
  rw [line?_eq, Option.guard_eq_some_iff]
  obtain ⟨c, hc, hblank⟩ := List.any_eq_true.1 hany
  exact ⟨rfl, List.any_eq_true.2 ⟨c, hsub.subset hc, hblank⟩⟩

end Group

theorem sublistForall₂_filterMap {α β : Type} {R : β → β → Prop} {f f' : α → Option β}
    (h : ∀ a b, f a = some b → ∃ b', f' a = some b' ∧ R b b') (l : List α) :
    List.SublistForall₂ R (l.filterMap f) (l.filterMap f') := by
  induction l with
  | nil => exact .nil
  | cons a l ih =>
    rw [List.filterMap_cons, List.filterMap_cons]
    cases hf : f a with
    | none =>
      cases f' a with
      | none => exact ih
      | some b' => exact .cons_right ih
    | some b =>
      obtain ⟨b', hf', hr⟩ := h a b hf
      rw [hf']
      exact .cons hr ih

/-- With more metadata a group shows all that it showed and keeps its line; the lines of a template
are still there in their order, each with at least the text it had. -/
theorem evaluate_within {m m' : Metadata} (h : m.Within m') :
    (∀ (g : Group) (before : Text),
      (g.render m before).1.Sublist (g.render m' before).1 ∧
      ((g.line? m).isSome = true → (g.line? m').isSome = true)) ∧
    ∀ t : Template,
      List.SublistForall₂ List.Sublist (t.evaluate m) (t.evaluate m') ∧
      (t.evaluate m).length ≤ (t.evaluate m').length := by
  refine ⟨fun g before => ⟨?_, fun hl => ?_⟩, fun t => ?_⟩
  · rw [Group.render_eq, Group.render_eq]
    exact (List.Sublist.refl before).append (g.shown_sublist h)
  · obtain ⟨line, hline⟩ := Option.isSome_iff_exists.1 hl
    obtain ⟨line', hline', _⟩ := g.exists_line? h hline
    exact Option.isSome_iff_exists.2 ⟨line', hline'⟩
  · have hlines : List.SublistForall₂ List.Sublist (t.evaluate m) (t.evaluate m') :=
      sublistForall₂_filterMap (fun g _ hl => g.exists_line? h hl) t.groups
    obtain ⟨kept, hkept, hsub⟩ := List.sublistForall₂_iff.1 hlines
    refine ⟨hlines, ?_⟩
    rw [hkept.length_eq]
    exact hsub.length_le

/-- A title that becomes known gives a line of its own and fills in another one. -/
theorem evaluate_within_title :
    let m : Metadata := { artist := some ['X'] }
    let m' : Metadata := { artist := some ['X'], title := some ['T'] }
    let t : Template := ⟨[], [[.field .title],
      [.literal ['b'], .field .artist, .subgroup [.literal ['-'], .field .title]]]⟩
    m.Within m' ∧ t.evaluate m = [['b', 'X']] ∧ t.evaluate m' = [['T'], ['b', 'X', '-', 'T']] ∧
      (t.evaluate m).length ≤ (t.evaluate m').length := by
  intro m m' t
  have hwithin : m.Within m' := by
    intro k v hv
    cases k <;> simp_all [m, m', Metadata.value?, Metadata.stored]
  refine ⟨hwithin, ?_, ?_, ((evaluate_within hwithin).2 t).2⟩
  · simp only [Template.evaluate, Group.line?_eq]
    rfl
  · simp only [Template.evaluate, Group.line?_eq]
    rfl

end RadioText
