import RadioText.Proofs.Style.Walk
import RadioText.Style.TreeView

/-! The drawing of a template, line by line. An outline is told by recursion on its nodes: a node
comes before its children, and these before its later siblings; a line shows for every ancestor, the
outermost first, whether later siblings of that ancestor are still to come. `listing` has a stack of
the groups that it is in instead, and comes to the same lines. -/
namespace RadioText.TreeView

inductive Node
  | mk (title : Text) (children : List Node)

namespace Node

def rail (last : Bool) : Text := if last then [' ', ' '] else ['│', ' ']

def joint (last : Bool) : Text := if last then ['└', '─'] else ['├', '─']

/-- The line of a node. `ancestors` says of each node that it is under, the outermost first, whether
that one is the last of its siblings. -/
def line (ancestors : List Bool) (last : Bool) (title : Text) : Text :=
  ancestors.flatMap rail ++ joint last ++ ' ' :: title ++ ['\n']

mutual

def outline (ancestors : List Bool) (last : Bool) : Node → List Text
  | .mk title children => line ancestors last title :: outlines (ancestors ++ [last]) children

def outlines (ancestors : List Bool) : List Node → List Text
  | [] => []
  | n :: later => outline ancestors later.isEmpty n ++ outlines ancestors later

end

mutual

def ofSegment : Segment → Node
  | .literal t => .mk (label (.literal t)) []
  | .field k => .mk (label (.field k)) []
  | .subgroup g => .mk (label (.subgroup g)) (ofSegments g)

def ofSegments : List Segment → List Node
  | [] => []
  | s :: g => ofSegment s :: ofSegments g

end

def ofGroup (number : Nat) (g : Group) : Node :=
  .mk ("↵ line ".toList ++ Decimal.write number) (ofSegments g)

def ofGroups (first : Nat) : List Group → List Node
  | [] => []
  | g :: gs => ofGroup first g :: ofGroups (first + 1) gs

theorem isEmpty_ofSegments (g : Group) : (ofSegments g).isEmpty = g.isEmpty := by
  cases g <;> rfl

theorem isEmpty_ofGroups (first : Nat) (gs : List Group) :
    (ofGroups first gs).isEmpty = gs.isEmpty := by
  cases gs <;> rfl

end Node

open Node

theorem nodeLine_eq (ancestors : List Bool) (last : Bool) (title : Text) :
    nodeLine (ancestors.flatMap rail) last title = line ancestors last title := by
  cases last <;> rfl

theorem margin_concat (ancestors : List Bool) (last : Bool) :
    ancestors.flatMap rail ++ indent last = (ancestors ++ [last]).flatMap rail := by
  cases last <;> simp [indent, rail]

/-- The last of all is the one with none behind it. -/
theorem last_iff {α : Type} (n : Nat) (rest : List α) :
    (n == n + rest.length) = rest.isEmpty := by
  cases rest <;> simp

/-- A group whose first segments are written, on top of the groups around it: the outline of its
other segments is written, then the groups around it go on. -/
theorem listing_level (g : Group) (i : Nat) (ancestors : List Bool) (outer : List Level)
    (done : List Text) :
    listing (⟨g.zipIdx i, i + g.length, ancestors.flatMap rail⟩ :: outer) done =
      listing outer ((outlines ancestors (ofSegments g)).reverse ++ done) := by
  induction g using Group.induction generalizing i ancestors outer done with
  | nil => simp [listing, ofSegments, outlines]
  | literal t g ih | field k g ih =>
    have hcount : i + (g.length + 1) = i + 1 + g.length := by omega
    rw [List.zipIdx_cons, List.length_cons, hcount, listing, last_iff, nodeLine_eq, ih]
    simp [ofSegments, ofSegment, outlines, outline, isEmpty_ofSegments]
  | subgroup inner g ihInner ih =>
    have hcount : i + (g.length + 1) = i + 1 + g.length := by omega
    have hinner := ihInner 0 (ancestors ++ [g.isEmpty])
    rw [Nat.zero_add] at hinner
    rw [List.zipIdx_cons, List.length_cons, hcount, listing, last_iff, nodeLine_eq, margin_concat,
      Level.ofGroup, hinner, ih]
    simp [ofSegments, ofSegment, outlines, outline, isEmpty_ofSegments]

theorem listing_ofGroup (last : Bool) (g : Group) :
    listing [.ofGroup (indent last) g] [] = outlines [last] (ofSegments g) := by
  have h := listing_level g 0 [last] [] []
  rw [Nat.zero_add] at h
  have hmargin : indent last = [last].flatMap rail := by cases last <;> rfl
  rw [Level.ofGroup, hmargin, h]
  simp [listing]

theorem groupLines_eq (number : Nat) (last : Bool) (g : Group) :
    groupLines number last g = outline [] last (ofGroup number g) := by
  rw [groupLines, listing_ofGroup, ofGroup, outline]
  exact congrArg (· :: _) (nodeLine_eq [] last _)

theorem groupLines_ofGroups (gs : List Group) (i : Nat) :
    ((gs.zipIdx i).map fun (g, j) => groupLines (j + 1) (j + 1 == i + gs.length) g).flatten =
      outlines [] (ofGroups (i + 1) gs) := by
  induction gs generalizing i with
  | nil => rfl
  | cons g gs ih =>
    have hcount : i + (gs.length + 1) = i + 1 + gs.length := by omega
    rw [List.zipIdx_cons, List.map_cons, List.flatten_cons, List.length_cons, hcount, ih]
    change groupLines (i + 1) (i + 1 == i + 1 + gs.length) g ++ _ = _
    rw [last_iff, groupLines_eq, ofGroups, outlines, isEmpty_ofGroups]

theorem lines_eq (t : Template) :
    lines t = header t.source :: outlines [] (ofGroups 1 t.groups) := by
  have h := groupLines_ofGroups t.groups 0
  rw [Nat.zero_add] at h
  rw [lines, h]

/-- Behind its header, the drawing of a template is the outline of its groups. -/
theorem draw_eq_outline (t : Template) :
    draw t = header t.source ++ (outlines [] (ofGroups 1 t.groups)).flatten := by
  rw [draw, lines_eq, List.flatten_cons]

end RadioText.TreeView
