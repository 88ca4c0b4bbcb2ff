import RadioText.Style.Parser
import RadioText.Proofs.Style.NormalForm

/-! The groups that a list of pieces stands for, said by derivations in place of a stack. `Nested`
reads what stands between a bracket and its partner; `Lines` reads a whole list, cut into lines by
its pipes. The parser agrees with both: what it has open when a list begins stays open and gets the
segments that the list begins with. -/
namespace RadioText

namespace Draft

def put (d : Draft) : Segment → Draft
  | .literal t => d.text t
  | s => d.add s

def append (d : Draft) (g : Group) : Draft := g.foldl put d

@[simp] theorem append_nil (d : Draft) : d.append [] = d := rfl

@[simp] theorem append_literal (d : Draft) (t : Text) (g : Group) :
    d.append (.literal t :: g) = (d.text t).append g := rfl

@[simp] theorem append_field (d : Draft) (k : Field) (g : Group) :
    d.append (.field k :: g) = (d.add (.field k)).append g := rfl

@[simp] theorem append_subgroup (d : Draft) (inner g : Group) :
    d.append (.subgroup inner :: g) = (d.add (.subgroup inner)).append g := rfl

theorem append_withText (d : Draft) (t : Text) (g : Group) :
    d.append (g.withText t) = (d.text t).append g := by
  by_cases ht : t = []
  · simp [ht, text]
  match g with
  | .literal u :: g => simp [Group.withText_literal ht, text]
  | [] | .field _ :: _ | .subgroup _ :: _ => simp [Group.withText, ht]

theorem settled_reverse (d : Draft) :
    d.settled.reverse = d.segments.reverse ++ Group.withText d.run.reverse [] := by
  by_cases hr : d.run = []
  · simp [settled, hr]
  · simp [settled, hr, Group.withText]

/-- The literal that a draft ends in joins the one that the segments read next begin with. -/
theorem group_append (d : Draft) {g : Group} (h : g.Normal) :
    (d.append g).group = d.segments.reverse ++ g.withText d.run.reverse := by
  induction h generalizing d with
  | nil => exact settled_reverse d
  | @literal t g ht hg _ ih =>
    rw [append_literal, ih, ← Group.withText_of_ne_literal ht hg, Group.withText_withText]
    simp [text]
  | field _ ih =>
    rw [append_field, ih]
    by_cases hr : d.run = [] <;> simp [add, settled, Group.withText, hr]
  | subgroup _ _ _ ih =>
    rw [append_subgroup, ih]
    by_cases hr : d.run = [] <;> simp [add, settled, Group.withText, hr]

theorem group_append_empty {g : Group} (h : g.Normal) : (append {} g).group = g := by
  simp [group_append _ h]

end Draft

namespace Piece

theorem roles_eq (skip : Nat) (done : List Piece) (l : List Placed) :
    roles skip done l = done.reverse ++ roles skip [] l := by
  induction l generalizing skip done with
  | nil => simp [roles]
  | cons t l ih =>
    obtain ⟨⟨t, position⟩, paired⟩ := t
    cases skip with
    | succ skip => rw [roles, roles, ih]
    | zero =>
      rw [roles, roles]
      split
      · rw [ih, ih 2 [_]]
        simp
      · rw [ih, ih 0 [_]]
        simp

def ofPlaced (l : List Placed) : List Piece := roles 0 [] l

theorem ofPlaced_reference (position : Nat) (paired : Bool) {x y : Placed} {c : Char}
    {l : List Placed} (h : letterAhead? (x :: y :: l) = some c) :
    ofPlaced (((.fieldOpen, position), paired) :: x :: y :: l) = reference c :: ofPlaced l := by
  rw [ofPlaced, roles, if_pos rfl, h]
  simp only
  rw [roles_eq, roles, roles]
  rfl

theorem ofPlaced_single {t : Token} (position : Nat) (paired : Bool) {l : List Placed}
    (h : t = .fieldOpen → letterAhead? l = none) :
    ofPlaced (((t, position), paired) :: l) = single position paired t :: ofPlaced l := by
  have hnone : (if t = .fieldOpen then letterAhead? l else none) = none := by
    by_cases ht : t = .fieldOpen
    · rw [if_pos ht, h ht]
    · rw [if_neg ht]
  rw [ofPlaced, roles, hnone]
  simp only
  rw [roles_eq]
  rfl

theorem letterAhead?_eq_some {x y : Placed} {l : List Placed} {c : Char}
    (h : letterAhead? (x :: y :: l) = some c) : letter? x.1.1 = some c ∧ y.1.1 = .fieldClose := by
  unfold letterAhead? at h
  split at h
  · rename_i heq
    cases heq
    exact ⟨h, rfl⟩
  · cases h

/-- Induction on tokens as their roles are read, a field reference at once. -/
@[elab_as_elim]
theorem placed_induction {motive : List Placed → Prop} (nil : motive [])
    (single : ∀ t position paired l, (t = .fieldOpen → letterAhead? l = none) → motive l →
      motive (((t, position), paired) :: l))
    (reference : ∀ position paired x y l c, letterAhead? (x :: y :: l) = some c → motive l →
      motive (((.fieldOpen, position), paired) :: x :: y :: l)) :
    ∀ l, motive l
  | [] => nil
  | ((t, position), paired) :: l => by
    by_cases hnone : t = .fieldOpen → letterAhead? l = none
    · exact single t position paired l hnone (placed_induction nil single reference l)
    · obtain ⟨rfl, hsome⟩ := Classical.not_imp.1 hnone
      match l with
      | [] | [_] => exact absurd rfl hsome
      | x :: y :: l =>
        obtain ⟨c, hc⟩ := Option.ne_none_iff_exists'.1 hsome
        exact reference position paired x y l c hc (placed_induction nil single reference l)
termination_by l => l.length

inductive Nested : List Piece → Group → Prop
  | nil : Nested [] []
  | text (t : Text) {ps : List Piece} {g : Group} :
    Nested ps g → Nested (.text t :: ps) (g.withText t)
  | field (k : Field) {ps : List Piece} {g : Group} :
    Nested ps g → Nested (.field k :: ps) (.field k :: g)
  | pipe {ps : List Piece} {g : Group} : Nested ps g → Nested (.pipe :: ps) (g.withText ['|'])
  | pair (i j : Nat) {inner ps : List Piece} {h g : Group} :
    Nested inner h → Nested ps g →
      Nested (.opening i true :: (inner ++ .closing j :: ps)) (.subgroup h :: g)

/-- Pieces outside every pair, the first line they stand for, and the lines after it. An opening
bracket without a partner takes what is left of its line. -/
inductive Lines : List Piece → Group → List Group → Prop
  | nil : Lines [] [] []
  | text (t : Text) {ps : List Piece} {g : Group} {gs : List Group} :
    Lines ps g gs → Lines (.text t :: ps) (g.withText t) gs
  | field (k : Field) {ps : List Piece} {g : Group} {gs : List Group} :
    Lines ps g gs → Lines (.field k :: ps) (.field k :: g) gs
  | pipe {ps : List Piece} {g : Group} {gs : List Group} :
    Lines ps g gs → Lines (.pipe :: ps) [] (g :: gs)
  | pair (i j : Nat) {inner ps : List Piece} {h g : Group} {gs : List Group} :
    Nested inner h → Lines ps g gs →
      Lines (.opening i true :: (inner ++ .closing j :: ps)) (.subgroup h :: g) gs
  | opened (i : Nat) {ps : List Piece} {g : Group} {gs : List Group} :
    Lines ps g gs → Lines (.opening i false :: ps) [.subgroup g] gs

theorem Nested.normal {ps : List Piece} {g : Group} (h : Nested ps g) : g.Normal := by
  induction h with
  | nil => exact .nil
  | text t _ ih => exact ih.withText t
  | field k _ ih => exact .field ih
  | pipe _ ih => exact ih.withText ['|']
  | pair i j _ _ ihInner ih => exact .subgroup ihInner ih

theorem Lines.normal {ps : List Piece} {g : Group} {gs : List Group} (h : Lines ps g gs) :
    ∀ g' ∈ g :: gs, Group.Normal g' := by
  induction h with
  | nil => simpa using Group.Normal.nil
  | text t _ ih =>
    rw [List.forall_mem_cons] at ih ⊢
    exact ⟨ih.1.withText t, ih.2⟩
  | field k _ ih =>
    rw [List.forall_mem_cons] at ih ⊢
    exact ⟨.field ih.1, ih.2⟩
  | pipe _ ih => exact List.forall_mem_cons.2 ⟨.nil, ih⟩
  | pair i j hi _ ih =>
    rw [List.forall_mem_cons] at ih ⊢
    exact ⟨.subgroup hi.normal ih.1, ih.2⟩
  | opened i _ ih =>
    rw [List.forall_mem_cons] at ih ⊢
    exact ⟨.subgroup ih.1 .nil, ih.2⟩

end Piece

open Piece

/-- A bracket and its partner add one subgroup, if what stands between them only adds to the
innermost open group. -/
theorem Parser.foldl_step_pair (i j : Nat) {inner ps : List Piece} {h : Group} (hn : h.Normal)
    (hi : ∀ p : Parser, 0 < p.pairedDepth →
      inner.foldl step p = { p with current := p.current.append h }) (p : Parser) :
    (Piece.opening i true :: (inner ++ Piece.closing j :: ps)).foldl step p =
      ps.foldl step { p with current := p.current.add (.subgroup h) } := by
  rw [List.foldl_cons, List.foldl_append, hi _ (Nat.succ_pos _)]
  simp [step, Draft.group_append_empty hn]

/-- Inside a pair the parser only adds to the innermost open group. -/
theorem Piece.Nested.foldl_step {ps : List Piece} {g : Group} (h : Nested ps g) (p : Parser)
    (hp : 0 < p.pairedDepth) :
    ps.foldl Parser.step p = { p with current := p.current.append g } := by
  induction h generalizing p with
  | nil => rfl
  | text t _ ih =>
    rw [List.foldl_cons, ih (p.step (.text t)) hp, Draft.append_withText]
    rfl
  | field k _ ih =>
    rw [List.foldl_cons, ih (p.step (.field k)) hp]
    rfl
  | pipe _ ih =>
    have hstep : p.step .pipe = p.step (.text ['|']) := by
      simp [Parser.step, Nat.ne_of_gt hp]
    rw [List.foldl_cons, hstep, ih (p.step (.text ['|'])) hp, Draft.append_withText]
    rfl
  | pair i j hi _ ihInner ih =>
    rw [Parser.foldl_step_pair i j hi.normal ihInner]
    exact ih { p with current := _ } hp

def keptLines (gs : List Group) : List Group := gs.filter (!·.isEmpty)

theorem keptLines_cons (g : Group) (gs : List Group) :
    keptLines (g :: gs) = keptLines [g] ++ keptLines gs := by
  rw [keptLines, keptLines, keptLines, ← List.filter_append]
  rfl

namespace Parser

theorem finish_groups (p : Parser) :
    p.finish.groups.reverse =
      p.groups.reverse ++ keptLines [(unwind p.current p.enclosing).group] := by
  by_cases h : (unwind p.current p.enclosing).group = [] <;> simp [finish, keptLines, h]

/-- Outside every pair the subgroups open so far get the rest of their line, which ends them. -/
theorem groups_foldl_step {ps : List Piece} {g : Group} {gs : List Group} (h : Lines ps g gs)
    (p : Parser) (hp : p.pairedDepth = 0) :
    (ps.foldl step p).finish.groups.reverse =
      p.groups.reverse ++ keptLines ((unwind (p.current.append g) p.enclosing).group :: gs) := by
  induction h generalizing p with
  | nil => exact finish_groups p
  | text t _ ih =>
    rw [List.foldl_cons, ih (p.step (.text t)) hp, Draft.append_withText]
    rfl
  | field k _ ih =>
    rw [List.foldl_cons, ih (p.step (.field k)) hp]
    rfl
  | @pipe ps g gs hl ih =>
    have hstep : p.step .pipe = p.finish := by simp [step, hp]
    have hg : (unwind (Draft.append {} g) []).group = g :=
      Draft.group_append_empty (hl.normal g (by simp))
    rw [List.foldl_cons, hstep, ih p.finish hp, finish_groups, List.append_assoc]
    change _ ++ (_ ++ keptLines ((unwind (Draft.append {} g) []).group :: gs)) = _
    rw [hg, ← keptLines_cons, Draft.append_nil]
  | pair i j hi _ ih =>
    rw [foldl_step_pair i j hi.normal hi.foldl_step]
    exact ih { p with current := _ } hp
  | @opened i ps g gs hl ih =>
    rw [List.foldl_cons, ih (p.step (.opening i false)) hp]
    simp [step, unwind, Draft.group_append_empty (hl.normal g (by simp))]

end Parser

/-- The groups of a list of tokens are the lines that its pieces stand for, without empty ones. -/
theorem groupsOfTokens_eq {ts : List Token} {g : Group} {gs : List Group}
    (h : Lines (ofTokens ts) g gs) : groupsOfTokens ts = keptLines (g :: gs) := by
  have hrun := Parser.groups_foldl_step h {} rfl
  have hg : (Parser.unwind (Draft.append {} g) []).group = g :=
    Draft.group_append_empty (h.normal g (by simp))
  simpa [groupsOfTokens, Parser.run, hg] using hrun

end RadioText
