import Mathlib.Data.List.Forall2
import RadioText.Proofs.Style.Walk

/-! Copies and comparisons of trees. Both keep the groups they have still to do with on a stack. A
stack of copies always comes to the group that its copies and what is left of the originals make
together, and a stack of pairs passes if the two groups of every pair on it are the same; so a copy
is the original, and two groups pass if they are one and the same tree. -/
namespace RadioText

/-- Two lists are the same if they are as long and no element differs from its partner. -/
theorem eq_iff_zip {α : Type} (a b : List α) :
    a = b ↔ a.length = b.length ∧ ∀ p ∈ a.zip b, p.1 = p.2 := by
  rw [← List.forall₂_eq_eq_eq, List.forall₂_iff_zip]
  simp

namespace Group

/-! ### Copies -/

def whole : List Copying → Option Group
  | [] => none
  | [⟨left, copied⟩] => some (copied.reverse ++ left)
  | ⟨left, copied⟩ :: ⟨after, parent⟩ :: outer =>
    whole (⟨.subgroup (copied.reverse ++ left) :: after, parent⟩ :: outer)
termination_by stack => stack.length

/-- One segment more that is copied is one less that is left. -/
theorem whole_copied (s : Segment) (left copied : List Segment) (outer : List Copying) :
    whole (⟨left, s :: copied⟩ :: outer) = whole (⟨s :: left, copied⟩ :: outer) := by
  cases outer with
  | nil => rw [whole, whole, List.reverse_cons, List.append_assoc, List.singleton_append]
  | cons parent outer =>
    rw [whole, whole, List.reverse_cons, List.append_assoc, List.singleton_append]

theorem copyFrom?_eq_whole (stack : List Copying) : copyFrom? stack = whole stack := by
  induction stack using copyFrom?.induct with
  | case1 => rw [copyFrom?, whole]
  | case2 t left copied outer ih => rw [copyFrom?, ih, whole_copied]
  | case3 k left copied outer ih => rw [copyFrom?, ih, whole_copied]
  | case4 inner left copied outer ih =>
    -- The subgroup is opened: nothing of it is copied, and all of it is left.
    rw [copyFrom?, ih, whole, List.reverse_nil, List.nil_append]
  | case5 copied => rw [copyFrom?, whole, List.append_nil]
  | case6 copied left parent outer ih =>
    rw [List.unattach_reverse, List.unattach_attach] at ih
    rw [copyFrom?, ih, whole_copied, whole, List.append_nil]

theorem copyFrom?_singleton (g : Group) : copyFrom? [⟨g, []⟩] = some g := by
  rw [copyFrom?_eq_whole, whole, List.reverse_nil, List.nil_append]

theorem copy_eq (g : Group) : g.copy = g := by
  rw [copy, copyFrom?_singleton, Option.getD_some]

/-! ### Comparisons -/

/-- Segments pass in pairs if none differs from its partner, apart from the subgroups left for
later. -/
theorem compare?_iff (pairs : List (Segment × Segment)) (pending : List (Group × Group)) :
    (∃ rest, compare? pairs pending = some rest ∧ ∀ p ∈ rest, p.1 = p.2) ↔
      (∀ p ∈ pairs, p.1 = p.2) ∧ ∀ p ∈ pending, p.1 = p.2 := by
  induction pairs, pending using compare?.induct with
  | case1 pending => simp [compare?]
  | case2 pending a b pairs ih =>
    rw [compare?, ih]
    simp only [List.forall_mem_cons, Segment.subgroup.injEq]
    tauto
  | case3 pending t pairs ih =>
    rw [compare?, if_pos rfl, ih]
    simp
  | case4 pending t u pairs hne => simp [compare?, hne]
  | case5 pending j pairs ih =>
    rw [compare?, if_pos rfl, ih]
    simp
  | case6 pending j k pairs hne => simp [compare?, hne]
  | case7 pair pairs pending hsubgroup hliteral hfield =>
    -- The segments are of two kinds.
    have hne : pair.1 ≠ pair.2 := by
      obtain ⟨s, t⟩ := pair
      intro heq
      obtain rfl : s = t := heq
      cases s with
      | literal t => exact hliteral t t rfl
      | field k => exact hfield k k rfl
      | subgroup g => exact hsubgroup g g rfl
    simp [compare?, hne]

/-- The pair on top passes if its groups are as long, their segments pass, and so does the stack
with the subgroups of these. -/
theorem allSame_cons (a b : Group) (pending : List (Group × Group)) :
    allSame ((a, b) :: pending) = true ↔
      a.length = b.length ∧
        ∃ rest, compare? (a.zip b) pending = some rest ∧ allSame rest = true := by
  rw [allSame]
  split
  · rename_i hlength
    split
    · rename_i rest hrest
      simp [hlength, hrest]
    · rename_i hrest
      simp [hrest]
  · rename_i hlength
    simp [hlength]

theorem allSame_iff (pending : List (Group × Group)) :
    allSame pending = true ↔ ∀ p ∈ pending, p.1 = p.2 := by
  induction pending using allSame.induct with
  | case1 => simp [allSame]
  | case2 a b pending hlength rest hrest ih =>
    rw [allSame_cons, List.forall_mem_cons, eq_iff_zip, and_assoc, ← compare?_iff]
    simp only [hrest, Option.some.injEq, exists_eq_left', ih]
  | case3 a b pending hlength hrest =>
    rw [allSame_cons, List.forall_mem_cons, eq_iff_zip, and_assoc, ← compare?_iff]
    simp [hrest]
  | case4 a b pending hlength =>
    rw [allSame_cons, List.forall_mem_cons, eq_iff_zip]
    simp [hlength]

theorem same_iff (a b : Group) : a.same b = true ↔ a = b := by
  rw [same, allSame_iff, List.forall_mem_singleton]

/-- Two groups pass as the same exactly if they are one tree, and a copy is the tree it is made of:
it does not run out of groups to copy into. -/
theorem same_and_copy (a b : Group) :
    (a.same b = true ↔ a = b) ∧ copyFrom? [⟨a, []⟩] = some a ∧ a.copy = a :=
  ⟨same_iff a b, copyFrom?_singleton a, copy_eq a⟩

end Group

theorem sameGroups_iff (a b : List Group) : sameGroups a b = true ↔ a = b := by
  simp [sameGroups, eq_iff_zip a b, Group.same_iff]

namespace Template

theorem same_iff (t u : Template) : t.same u = true ↔ t = u := by
  obtain ⟨source, groups⟩ := t
  obtain ⟨source', groups'⟩ := u
  simp [same, sameGroups_iff]

theorem copy_eq (t : Template) : t.copy = t := by
  rw [copy, List.map_congr_left fun g _ => Group.copy_eq g, List.map_id']

end Template
end RadioText
