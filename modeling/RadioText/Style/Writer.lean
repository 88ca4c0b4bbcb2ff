import RadioText.Style.Parser

/-! A template as style text: control characters in literals get a backslash, every subgroup gets
its closing bracket, and pipes stand between the groups. -/
namespace RadioText

def spellLiteral (t : Text) : Text :=
  t.flatMap fun c => if (Token.control? c).isSome then ['\\', c] else [c]

def Visit.spell : Visit → Text
  | .literal t => spellLiteral t
  | .field k => k.display
  | .enter => ['[']
  | .leave => [']']

def Group.toStyle (g : Group) : Text := g.visits.flatMap Visit.spell

def groupsToStyle (gs : List Group) : Text := Text.join ['|'] (gs.map Group.toStyle)

def Template.toStyle (t : Template) : Text := groupsToStyle t.groups

/-- The style that a style is written back as. -/
def normalizeStyle (style : Text) : Text := (Template.ofStyle style).toStyle

end RadioText
