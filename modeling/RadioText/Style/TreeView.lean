import RadioText.Style.Template
import RadioText.Text.Decimal
import RadioText.Text.Quoted

/-! A template as a tree drawing: one line for the style, then one for each group and each segment,
a node before its children. Bars join a node to its later siblings. -/
namespace RadioText.TreeView

/-- Longest style or literal shown in full. -/
def limit : Nat := 30

def connector (last : Bool) : Text := (if last then "└─" else "├─").toList

def indent (last : Bool) : Text := (if last then "  " else "│ ").toList

/-- The icon and the label of a segment. -/
def label : Segment → Text
  | .literal t => "◦ ".toList ++ Quoted.quote (Text.abbreviate limit t)
  | .field k => "⊕ ".toList ++ k.display ++ ' ' :: k.label.toList
  | .subgroup _ => "⊂ subgroup".toList

def nodeLine (margin : Text) (last : Bool) (node : Text) : Text :=
  margin ++ connector last ++ ' ' :: node ++ ['\n']

/-- The line above all others, which names the style. -/
def header (source : Text) : Text := "⧉ ".toList ++ Text.abbreviate limit source ++ ['\n']

/-- A group whose lines are being written: the segments to come, each with its place in the group,
how many segments the group has in all, and what its lines begin with. -/
structure Level where
  children : List (Segment × Nat)
  count : Nat
  margin : Text

def Level.ofGroup (margin : Text) (g : Group) : Level := ⟨g.zipIdx, g.length, margin⟩

/-- The lines of what is left of the innermost group, then of what is left of the groups around
it. -/
def listing : List Level → List Text → List Text
  | [], done => done.reverse
  | ⟨[], _, _⟩ :: outer, done => listing outer done
  | ⟨(s, i) :: children, count, margin⟩ :: outer, done =>
    let last := i + 1 == count
    let line := nodeLine margin last (label s)
    let level : Level := ⟨children, count, margin⟩
    match s with
    | .subgroup inner =>
      listing (.ofGroup (margin ++ indent last) inner :: level :: outer) (line :: done)
    | .literal _ => listing (level :: outer) (line :: done)
    | .field _ => listing (level :: outer) (line :: done)
termination_by stack =>
  Segment.pendingCounts (stack.map (·.children.map (·.1))) + stack.length
decreasing_by
  all_goals simp only [Level.ofGroup, Segment.pendingCounts, Segment.visitCounts,
    Segment.visitCount, List.map_cons, List.map_nil, List.foldr_cons, List.length_cons,
    List.zipIdx_map_fst]
  all_goals omega

def groupLines (number : Nat) (last : Bool) (g : Group) : List Text :=
  nodeLine [] last ("↵ line ".toList ++ Decimal.write number)
    :: listing [.ofGroup (indent last) g] []

/-- The lines of a template, each ended by a line feed. -/
def lines (t : Template) : List Text :=
  let count := t.groups.length
  header t.source
    :: (t.groups.zipIdx.map fun (g, i) =>
      groupLines (i + 1) (i + 1 == count) g).flatten

def draw (t : Template) : Text := (lines t).flatten

end RadioText.TreeView
