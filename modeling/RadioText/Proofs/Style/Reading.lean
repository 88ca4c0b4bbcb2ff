import Mathlib
import RadioText.Proofs.Style.Roles
import RadioText.Proofs.Style.Walk

/-! Nothing of a style is lost. What a list of groups says, read from front to back, is what its
tokens say: only closing brackets that have a partner and pipes that end a line are not heard. The
parser keeps this at every step, with what it has read standing in three places: the groups that
are finished, the groups still open, and the literal it is reading. -/
namespace RadioText
open Matching Grammar Piece

def Visit.marks : Visit → List (Option Char)
  | .literal t => t.map some
  | .field k => k.display.map some
  | .enter => [none]
  | .leave => []

def Visit.reading : Visit → Text
  | .literal t => t
  | .field k => k.display
  | .enter => ['[']
  | .leave => []

namespace Group

def marks (g : Group) : List (Option Char) := g.visits.flatMap Visit.marks

def reading (g : Group) : Text := g.visits.flatMap Visit.reading

def subgroupCount (g : Group) : Nat := g.visits.count .enter

end Group

def Token.reading (qs : List (Nat × Nat)) : Token × Nat → Text
  | (.groupOpen, _) => ['[']
  | (.groupClose, n) => if closes qs n then [] else [']']
  | (.pipe, n) => if inside qs n then ['|'] else []
  | (t, _) => t.literal

def Token.marks (qs : List (Nat × Nat)) : Token × Nat → List (Option Char)
  | (.groupOpen, _) => [none]
  | t => (Token.reading qs t).map some

def Piece.marks : Piece → List (Option Char)
  | .text t => t.map some
  | .field k => k.display.map some
  | .opening _ _ => [none]
  | .closing _ | .pipe => []

def spellMarks (ms : List (Option Char)) : Text := ms.map (·.getD '[')

theorem Visit.spellMarks_marks (v : Visit) : spellMarks v.marks = v.reading := by
  cases v <;> simp [spellMarks, marks, reading, Function.comp_def]

theorem Visit.count_marks (v : Visit) : v.marks.count none = [v].count .enter := by
  cases v <;> simp [marks, List.count_eq_zero]

namespace Group

@[simp] theorem marks_nil : marks [] = [] := by
  simp [marks]

theorem marks_append (g h : Group) : marks (g ++ h) = marks g ++ marks h := by
  rw [marks, visits_append, List.flatMap_append, marks, marks]

theorem marks_literal (t : Text) : marks [.literal t] = t.map some := by
  simp [marks, Visit.marks]

theorem marks_field (k : Field) : marks [.field k] = k.display.map some := by
  simp [marks, Visit.marks]

theorem marks_subgroup (inner : Group) : marks [.subgroup inner] = none :: marks inner := by
  simp [marks, Visit.marks]

end Group

namespace Draft

theorem group_add (d : Draft) (s : Segment) : (d.add s).group = d.group ++ [s] := by
  simp [group, add, settled]

theorem marks_group (d : Draft) :
    d.group.marks = Group.marks d.segments.reverse ++ d.run.reverse.map some := by
  rw [group, settled_reverse, Group.marks_append]
  by_cases hr : d.run = []
  · simp [hr]
  · rw [Group.withText_of_ne_literal (by simpa using hr) (by simp), Group.marks_literal]

theorem marks_text (d : Draft) (t : Text) :
    (d.text t).group.marks = d.group.marks ++ t.map some := by
  simp [marks_group, text]

theorem marks_add (d : Draft) (s : Segment) :
    (d.add s).group.marks = d.group.marks ++ Group.marks [s] := by
  rw [group_add, Group.marks_append]

end Draft

def Enclosing.marks (e : Enclosing) : List (Option Char) := e.parent.group.marks ++ [none]

namespace Parser

def marks (p : Parser) : List (Option Char) :=
  p.groups.reverse.flatMap Group.marks ++ p.enclosing.reverse.flatMap Enclosing.marks ++
    p.current.group.marks

theorem marks_unwind (d : Draft) (enclosing : List Enclosing) :
    (unwind d enclosing).group.marks =
      enclosing.reverse.flatMap Enclosing.marks ++ d.group.marks := by
  induction enclosing generalizing d with
  | nil => rfl
  | cons e rest ih =>
    rw [unwind, ih, Draft.marks_add, Group.marks_subgroup]
    simp [Enclosing.marks]

theorem marks_finish (p : Parser) : p.finish.groups.reverse.flatMap Group.marks = p.marks := by
  have hkept : (keptLines [(unwind p.current p.enclosing).group]).flatMap Group.marks =
      (unwind p.current p.enclosing).group.marks := by
    cases hg : (unwind p.current p.enclosing).group <;> simp [keptLines]
  rw [finish_groups, List.flatMap_append, hkept, marks_unwind, marks, List.append_assoc]

theorem marks_step (p : Parser) {q : Piece} (hq : q = .pipe → p.pairedDepth = 0) :
    (p.step q).marks = p.marks ++ q.marks := by
  cases q with
  | text t => simp [step, marks, Draft.marks_text, Piece.marks]
  | field k => simp [step, marks, Draft.marks_add, Group.marks_field, Piece.marks]
  | opening i paired => simp [step, marks, Enclosing.marks, Piece.marks, Draft.marks_group]
  | closing i =>
    cases he : p.enclosing with
    | nil => simp [step, marks, he, Piece.marks]
    | cons e rest =>
      simp [step, marks, he, Piece.marks, Enclosing.marks, Draft.marks_add, Group.marks_subgroup]
  | pipe =>
    have hfinish : p.step .pipe = p.finish := by simp [step, hq rfl]
    have hempty : p.finish.marks = p.finish.groups.reverse.flatMap Group.marks := by
      simp [finish, marks, Draft.marks_group]
    rw [hfinish, hempty, marks_finish]
    simp [Piece.marks]

end Parser

theorem Piece.marks_reference (c : Char) : (reference c).marks = ['{', c, '}'].map some := by
  rw [reference]
  cases hk : Field.ofCode? c with
  | none => rfl
  | some k =>
    have hc : k.code = c := by simpa using List.find?_some hk
    simp [marks, Field.display, hc]

theorem Token.marks_of_text {t : Token} (ho : t ≠ .groupOpen) (hc : t ≠ .groupClose)
    (hp : t ≠ .pipe) (qs : List (Nat × Nat)) (n : Nat) :
    Token.marks qs (t, n) = t.literal.map some := by
  cases t <;> first | rfl | contradiction

/-- The parser has read what the tokens say. -/
theorem Grammar.Roles.marks_foldl {qs : List (Nat × Nat)} {depth : Nat}
    {ts : List (Token × Nat)} {ps : List Piece} (h : Roles qs depth ts ps) {p : Parser}
    (hp : p.pairedDepth = depth) :
    (ps.foldl Parser.step p).marks = p.marks ++ ts.flatMap (Token.marks qs) := by
  -- A piece that says what its token says, in front of pieces that are read already.
  have front {t : Token × Nat} {q : Piece} {ts : List (Token × Nat)} {ps : List Piece}
      {p : Parser} (hrest : (ps.foldl Parser.step (p.step q)).marks =
        (p.step q).marks ++ ts.flatMap (Token.marks qs))
      (hstep : (p.step q).marks = p.marks ++ Token.marks qs t) :
      ((q :: ps).foldl Parser.step p).marks =
        p.marks ++ (t :: ts).flatMap (Token.marks qs) := by
    rw [List.foldl_cons, hrest, hstep, List.flatMap_cons, List.append_assoc]
  induction h generalizing p with
  | nil => simp
  | @text _ t n ho hc hnp ts ps _ ih =>
    have hrest := ih (p := p.step (.text t.literal)) hp
    refine front hrest ?_
    rw [p.marks_step (by simp), Token.marks_of_text ho hc hnp]
    rfl
  | @reference _ x c n hx ts ps _ ih =>
    obtain ⟨ho, hc, hnp⟩ := oneChar?_ne_bracket hx
    have hrest := ih (p := p.step (Piece.reference c)) (by
      rw [p.pairedDepth_step, depthAfter_reference, hp])
    have hne : Piece.reference c ≠ .pipe := by
      rw [Piece.reference]
      cases Field.ofCode? c <;> simp
    have hletter : Token.marks qs (x, n + 1) = [some c] := by
      rw [Token.marks_of_text ho hc hnp, literal_of_oneChar? hx, List.map_singleton]
    rw [List.foldl_cons, hrest, p.marks_step fun h => absurd h hne, marks_reference,
      List.flatMap_cons, List.flatMap_cons, List.flatMap_cons, hletter, List.append_assoc]
    rfl
  | @paired _ n hn ts ps _ ih =>
    have hrest := ih (p := p.step (.opening n true)) (by simp [Parser.step, hp])
    exact front hrest (p.marks_step (by simp))
  | @opened n hn ts ps _ ih =>
    have hrest := ih (p := p.step (.opening n false)) hp
    exact front hrest (p.marks_step (by simp))
  | @closing _ n hn ts ps _ ih =>
    have hrest := ih (p := p.step (.closing n)) (by simp [p.pairedDepth_step, depthAfter, hp])
    refine front hrest ?_
    rw [p.marks_step (by simp)]
    simp [Token.marks, Token.reading, hn, Piece.marks]
  | @unmatched n hn ts ps _ ih =>
    have hrest := ih (p := p.step (.text [']'])) hp
    refine front hrest ?_
    rw [p.marks_step (by simp)]
    simp [Token.marks, Token.reading, hn, Piece.marks]
  | @innerPipe _ n hn ts ps _ ih =>
    have hrest := ih (p := p.step .pipe) (by simp [p.pairedDepth_step, depthAfter, hp])
    refine front hrest ?_
    rw [Parser.step_innerPipe (by omega), p.marks_step (by simp)]
    simp [Token.marks, Token.reading, hn, Piece.marks]
  | @pipe n hn ts ps _ ih =>
    have hrest := ih (p := p.step .pipe) (by simp [p.pairedDepth_step, depthAfter, hp])
    refine front hrest ?_
    rw [p.marks_step fun _ => hp]
    simp [Token.marks, Token.reading, hn, Piece.marks]

theorem marks_groupsOfTokens (ts : List Token) :
    (groupsOfTokens ts).flatMap Group.marks = ts.zipIdx.flatMap (Token.marks (pairs ts)) := by
  have hrun := (roles_ofTokens ts).marks_foldl (p := {}) rfl
  rw [groupsOfTokens, Parser.marks_finish, Parser.run, hrun]
  simp [Parser.marks, Draft.marks_group]

theorem spellMarks_flatMap {α : Type} (l : List α) (f : α → List (Option Char)) :
    spellMarks (l.flatMap f) = l.flatMap fun a => spellMarks (f a) :=
  List.map_flatMap

theorem Group.spellMarks_marks (g : Group) : spellMarks g.marks = g.reading := by
  rw [marks, spellMarks_flatMap, reading]
  exact congrArg (List.flatMap · g.visits) (funext Visit.spellMarks_marks)

theorem Token.spellMarks_marks (qs : List (Nat × Nat)) (t : Token × Nat) :
    spellMarks (Token.marks qs t) = Token.reading qs t := by
  obtain ⟨t, n⟩ := t
  cases t <;> simp [spellMarks, marks, reading, Function.comp_def]

theorem Group.count_marks (g : Group) : g.marks.count none = g.subgroupCount := by
  rw [marks, subgroupCount]
  induction g.visits with
  | nil => rfl
  | cons v vs ih =>
    rw [List.flatMap_cons, List.count_append, v.count_marks, ih, ← List.count_append]
    rfl

theorem Token.count_marks (qs : List (Nat × Nat)) (ts : List Token) (n : Nat) :
    ((ts.zipIdx n).flatMap (Token.marks qs)).count none = ts.count .groupOpen := by
  have hno : ∀ t : Text, (t.map some).count (none : Option Char) = 0 := by
    intro t
    simp [List.count_eq_zero]
  induction ts generalizing n with
  | nil => rfl
  | cons t ts ih =>
    rw [List.zipIdx_cons, List.flatMap_cons, List.count_append, ih]
    cases t with
    | groupOpen => simp [marks, Nat.add_comm]
    | _ => simp [marks, hno]

/-- The groups of a list of tokens, read one after the other, say what the tokens say: nothing is
lost, nothing comes twice, and all comes in order. Each opening bracket has its own subgroup. -/
theorem reading_groupsOfTokens (ts : List Token) :
    (groupsOfTokens ts).flatMap Group.reading =
        ts.zipIdx.flatMap (Token.reading (pairs ts)) ∧
      ((groupsOfTokens ts).map Group.subgroupCount).sum = ts.count .groupOpen := by
  have hmarks := marks_groupsOfTokens ts
  constructor
  · have hspell := congrArg spellMarks hmarks
    simpa only [spellMarks_flatMap, Group.spellMarks_marks, Token.spellMarks_marks] using hspell
  · have hcount := congrArg (List.count none) hmarks
    rw [Token.count_marks, List.count_flatMap] at hcount
    rw [← hcount]
    exact congrArg _ (List.map_congr_left fun g _ => g.count_marks.symm)

end RadioText
