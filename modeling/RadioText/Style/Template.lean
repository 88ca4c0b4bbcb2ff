import RadioText.Style.Field

/-! Styles as trees. A template is a list of groups, one line each; a group is a list of
literals, field references and bracketed subgroups, nested to any depth.

Nothing that walks a tree keeps its place on the call stack: `Group.visits` lays a tree out as
the list of its visits, with a list of the groups still open, and most else reads that list. A copy
has a stack of groups that are being copied, and a comparison one of groups still to compare. -/
namespace RadioText

inductive Segment
  /-- Text shown as it is. -/
  | literal (text : Text)
  | field (kind : Field)
  /-- A bracketed run, left out as a whole when one of its own fields has no value. -/
  | subgroup (segments : List Segment)

abbrev Group := List Segment

/-- One step of a walk through a group. -/
inductive Visit
  | literal (text : Text)
  | field (kind : Field)
  | enter
  | leave
deriving DecidableEq

mutual

/-- How many visits a walk makes in a segment. -/
def Segment.visitCount : Segment → Nat
  | .literal _ => 1
  | .field _ => 1
  | .subgroup g => 2 + Segment.visitCounts g

/-- How many visits a walk makes in the segments of a group. -/
def Segment.visitCounts : List Segment → Nat
  | [] => 0
  | s :: g => s.visitCount + Segment.visitCounts g

end

/-- How many visits a walk makes in several groups. -/
def Segment.pendingCounts (gs : List Group) : Nat :=
  gs.foldr (fun g n => Segment.visitCounts g + n) 0

namespace Group

/-- Visit what is left of a group, then what is left of the groups around it. -/
def walk : Group → List Group → List Visit → List Visit
  | [], [], seen => seen.reverse
  | [], outer :: pending, seen => walk outer pending (.leave :: seen)
  | .literal t :: g, pending, seen => walk g pending (.literal t :: seen)
  | .field k :: g, pending, seen => walk g pending (.field k :: seen)
  | .subgroup inner :: g, pending, seen => walk inner (g :: pending) (.enter :: seen)
termination_by g pending =>
  Segment.visitCounts g + Segment.pendingCounts pending + pending.length
decreasing_by
  all_goals simp only [Segment.pendingCounts, Segment.visitCounts, Segment.visitCount,
    List.foldr_cons, List.length_cons]
  all_goals omega

/-- The visits of a group in reading order. -/
def visits (g : Group) : List Visit := walk g [] []

/-- The fields of a group and its subgroups in reading order, with repetitions. -/
def fields (g : Group) : List Field :=
  g.visits.filterMap fun
    | .field k => some k
    | _ => none

/-- A group being copied: what is left of it, and the copies of its segments so far, last first. -/
structure Copying where
  left : Group
  copied : List Segment := []

/-- Copy what is left of the innermost group, then of the groups around it. A group that is copied
to its end is a subgroup of the one around it, or the result; `none` if no group is being copied. -/
def copyFrom? : List Copying → Option Group
  | [] => none
  | ⟨.literal t :: left, copied⟩ :: outer => copyFrom? (⟨left, .literal t :: copied⟩ :: outer)
  | ⟨.field k :: left, copied⟩ :: outer => copyFrom? (⟨left, .field k :: copied⟩ :: outer)
  | ⟨.subgroup inner :: left, copied⟩ :: outer => copyFrom? (⟨inner, []⟩ :: ⟨left, copied⟩ :: outer)
  | [⟨[], copied⟩] => some copied.reverse
  | ⟨[], copied⟩ :: ⟨left, parent⟩ :: outer =>
    copyFrom? (⟨left, .subgroup copied.reverse :: parent⟩ :: outer)
termination_by stack => Segment.pendingCounts (stack.map (·.left)) + stack.length
decreasing_by
  all_goals simp only [Segment.pendingCounts, Segment.visitCounts, Segment.visitCount,
    List.map_cons, List.foldr_cons, List.length_cons]
  all_goals omega

/-- A group of its own with the same segments. -/
def copy (g : Group) : Group := (copyFrom? [⟨g, []⟩]).getD []

/-- Compare segments in pairs. Two subgroups are left for later, on top of the pairs of groups that
are left already; `none` if two segments differ. -/
def compare? : List (Segment × Segment) → List (Group × Group) → Option (List (Group × Group))
  | [], pending => some pending
  | (.subgroup a, .subgroup b) :: pairs, pending => compare? pairs ((a, b) :: pending)
  | (.literal t, .literal u) :: pairs, pending => if t = u then compare? pairs pending else none
  | (.field j, .field k) :: pairs, pending => if j = k then compare? pairs pending else none
  | _ :: _, _ => none

/-- How much is left to do for some pairs of groups. -/
def pendingWork (pending : List (Group × Group)) : Nat :=
  Segment.pendingCounts (pending.map (·.1)) + pending.length

/-- Subgroups that are left for later are less work than the segments they come from. -/
theorem pendingWork_compare? {pairs : List (Segment × Segment)}
    {pending rest : List (Group × Group)} (h : compare? pairs pending = some rest) :
    pendingWork rest ≤ Segment.visitCounts (pairs.map (·.1)) + pendingWork pending := by
  induction pairs, pending using compare?.induct with
  | case1 pending =>
    obtain rfl : pending = rest := by simpa [compare?] using h
    simp [Segment.visitCounts]
  | case2 pending a b pairs ih =>
    rw [compare?] at h
    have hle := ih h
    simp only [pendingWork, Segment.pendingCounts, Segment.visitCounts, Segment.visitCount,
      List.map_cons, List.foldr_cons, List.length_cons] at hle ⊢
    omega
  | case3 pending t pairs ih | case5 pending j pairs ih =>
    rw [compare?, if_pos rfl] at h
    have hle := ih h
    simp only [List.map_cons, Segment.visitCounts] at hle ⊢
    omega
  | case4 pending t u pairs hne | case6 pending j k pairs hne =>
    rw [compare?, if_neg hne] at h
    cases h
  | case7 pair pairs pending => simp [compare?] at h

/-- Whether in each of some pairs the groups are the same: the pair on top first, the subgroups of
its groups next. -/
def allSame : List (Group × Group) → Bool
  | [] => true
  | (a, b) :: pending =>
    if _hlength : a.length = b.length then
      match _hrest : compare? (a.zip b) pending with
      | some rest => allSame rest
      | none => false
    else false
termination_by pending => pendingWork pending
decreasing_by
  have hle := pendingWork_compare? _hrest
  rw [List.map_fst_zip (Nat.le_of_eq _hlength)] at hle
  simp only [pendingWork, Segment.pendingCounts, List.map_cons, List.foldr_cons,
    List.length_cons] at hle ⊢
  omega

/-- Whether two groups have the same segments in the same order at every depth. -/
def same (a b : Group) : Bool := allSame [(a, b)]

end Group

/-- Two lists of groups have the same groups in the same order. -/
def sameGroups (a b : List Group) : Bool :=
  a.length == b.length && (a.zip b).all fun (g, h) => g.same h

/-- A style with the groups read from it. -/
structure Template where
  source : Text
  groups : List Group

namespace Template

def isEmpty (t : Template) : Bool := t.groups.isEmpty

/-- Templates are the same if the style they come from is, and the groups are. -/
def same (a b : Template) : Bool := a.source == b.source && sameGroups a.groups b.groups

def copy (t : Template) : Template := ⟨t.source, t.groups.map Group.copy⟩

end Template
end RadioText
