import RadioText.Style.Template
import RadioText.Metadata

/-! The text of a template for given metadata. A field without a value shows nothing, and the
subgroup that it stands in directly shows nothing at all; what is around that subgroup stays. A
group whose text is blank gives no line. -/
namespace RadioText

/-- An open group: how much text there was before it, and whether each of its own fields read so
far has a value. -/
structure OpenGroup where
  mark : Nat
  satisfied : Bool

/-- The text so far, the innermost open group, and the groups open around it. -/
structure Rendering where
  out : Array Char
  innermost : OpenGroup
  enclosing : List OpenGroup

namespace Rendering

def append (r : Rendering) (t : Text) : Rendering := { r with out := r.out ++ t }

/-- One visit. A subgroup that ends with a value missing takes its text back. -/
def step (m : Metadata) (r : Rendering) : Visit → Rendering
  | .literal t => r.append t
  | .field k =>
    match m.value? k with
    | some v => r.append v
    | none => { r with innermost := { r.innermost with satisfied := false } }
  | .enter => ⟨r.out, ⟨r.out.size, true⟩, r.innermost :: r.enclosing⟩
  | .leave =>
    match r.enclosing with
    | [] => r
    | outer :: rest =>
      ⟨if r.innermost.satisfied then r.out else r.out.shrink r.innermost.mark, outer, rest⟩

end Rendering

namespace Group

/-- Write a group after `before`; also whether every direct field of the group has a value. -/
def render (g : Group) (m : Metadata) (before : Text) : Text × Bool :=
  let out := before.toArray
  let r := g.visits.foldl (Rendering.step m) ⟨out, ⟨out.size, true⟩, []⟩
  (r.out.toList, r.innermost.satisfied)

/-- The line of a group, unless it is blank. -/
def line? (g : Group) (m : Metadata) : Option Text :=
  let t := (g.render m []).1
  if t.blank then none else some t

end Group

/-- The lines of a template in the order of its groups, none of them blank. -/
def Template.evaluate (t : Template) (m : Metadata) : List Text :=
  t.groups.filterMap (Group.line? · m)

end RadioText
