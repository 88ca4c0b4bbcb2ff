import RadioText.Style.Template
import RadioText.Style.Pairing

/-! From tokens to groups. A bracket with a partner owns everything up to it, pipes included;
an opening bracket without one stays open to the end of its line; a closing bracket without one
is text. Lines end at the pipes outside every pair, and a line without segments is not kept.

`pieces` gives each token its role, `Parser.step` builds the groups from the pieces with a stack
of the groups that are open. -/
namespace RadioText

/-- What a token is once field references are read and brackets are paired. -/
inductive Piece
  | text (t : Text)
  | field (kind : Field)
  /-- An opening bracket: which token it is, and whether it has a partner. -/
  | opening (position : Nat) (paired : Bool)
  /-- A closing bracket that has a partner. -/
  | closing (position : Nat)
  | pipe

namespace Piece

/-- The letter a token can stand for inside a field reference. -/
def letter? : Token → Option Char
  | .text [c] => some c
  | .escaped c => some c
  | _ => none

/-- A reference to a field, or the text of one whose letter is not a field's. -/
def reference (c : Char) : Piece :=
  match Field.ofCode? c with
  | some k => .field k
  | none => .text ['{', c, '}']

/-- The role of a token that starts no field reference. -/
def single (position : Nat) (paired : Bool) : Token → Piece
  | .groupOpen => .opening position paired
  | .groupClose => if paired then .closing position else .text [']']
  | .pipe => .pipe
  | t => .text t.literal

/-- A token, where it stands, and whether it is a paired bracket. -/
abbrev Placed := (Token × Nat) × Bool

/-- The letter of a field reference that a list of tokens after a brace completes. -/
def letterAhead? : List Placed → Option Char
  | ((t, _), _) :: ((.fieldClose, _), _) :: _ => letter? t
  | _ => none

/-- The roles of the tokens in order; `skip` counts tokens that a reference has used. -/
def roles (skip : Nat) (done : List Piece) : List Placed → List Piece
  | [] => done.reverse
  | ((t, position), paired) :: rest =>
    match skip with
    | skip + 1 => roles skip done rest
    | 0 =>
      match if t = .fieldOpen then letterAhead? rest else none with
      | some c => roles 2 (reference c :: done) rest
      | none => roles 0 (single position paired t :: done) rest

def ofTokens (ts : List Token) : List Piece := roles 0 [] (ts.zipIdx.zip (Pairing.paired ts))

end Piece

/-- A group being read: its finished segments and the literal it ends in, both last first. -/
structure Draft where
  segments : List Segment := []
  run : Text := []

namespace Draft

def text (t : Text) (d : Draft) : Draft := { d with run := t.reverse ++ d.run }

/-- The segments with the literal they end in, last first; no literal is empty. -/
def settled (d : Draft) : List Segment :=
  if d.run.isEmpty then d.segments else .literal d.run.reverse :: d.segments

def add (s : Segment) (d : Draft) : Draft := ⟨s :: d.settled, []⟩

def group (d : Draft) : Group := d.settled.reverse

end Draft

/-- A subgroup that is open: the group around it, and its opening bracket. -/
structure Enclosing where
  parent : Draft
  position : Nat
  paired : Bool

/-- Groups read so far, last first; the group being read; the subgroups open around it, the
innermost first; how many of these have a closing bracket to come. -/
structure Parser where
  groups : List Group := []
  current : Draft := {}
  enclosing : List Enclosing := []
  pairedDepth : Nat := 0

namespace Parser

/-- Close every open subgroup. -/
def unwind (d : Draft) : List Enclosing → Draft
  | [] => d
  | e :: rest => unwind (e.parent.add (.subgroup d.group)) rest

/-- End the line: close what is open and keep the group unless it is empty. -/
def finish (p : Parser) : Parser :=
  let g := (unwind p.current p.enclosing).group
  { p with groups := if g.isEmpty then p.groups else g :: p.groups, current := {}, enclosing := [] }

def step (p : Parser) : Piece → Parser
  | .text t => { p with current := p.current.text t }
  | .field k => { p with current := p.current.add (.field k) }
  | .opening position paired =>
    { p with
      current := {}
      enclosing := ⟨p.current, position, paired⟩ :: p.enclosing
      pairedDepth := if paired then p.pairedDepth + 1 else p.pairedDepth }
  | .closing _ =>
    match p.enclosing with
    | [] => { p with pairedDepth := p.pairedDepth - 1 }
    | e :: rest =>
      { p with
        current := e.parent.add (.subgroup p.current.group)
        enclosing := rest
        pairedDepth := p.pairedDepth - 1 }
  | .pipe =>
    if p.pairedDepth = 0 then p.finish else { p with current := p.current.text ['|'] }

def run (ps : List Piece) : Parser := ps.foldl step {}

end Parser

/-- The groups of a list of tokens, which need not come from a style. -/
def groupsOfTokens (ts : List Token) : List Group :=
  (Parser.run (Piece.ofTokens ts)).finish.groups.reverse

/-- Read a style. Every style is readable. -/
def Template.ofStyle (style : Text) : Template := ⟨style, groupsOfTokens (Token.ofStyle style)⟩

end RadioText
