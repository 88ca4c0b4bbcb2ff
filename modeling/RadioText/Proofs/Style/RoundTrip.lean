import RadioText.Proofs.Style.Backslash

/-! A template in normal form, written as style text and read again. It comes back unless a literal
ends in a backslash with something written behind it: a field, a subgroup, a closing bracket or a
pipe would take the backslash as its own. -/
namespace RadioText
open Token Piece Matching Grammar

def NormalForm (gs : List Group) : Prop := ∀ g ∈ gs, g ≠ [] ∧ g.Normal

/-- A literal that ends in a backslash, at any depth, is the last segment of the last group. -/
def SlashLast (gs : List Group) : Prop :=
  ∀ before g after left s right t, gs = before ++ g :: after → g = left ++ s :: right →
    s.Holds t → t.getLast? = some '\\' → s = .literal t ∧ right = [] ∧ after = []

def styleBehind (gs : List Group) : Text := if gs = [] then [] else '|' :: groupsToStyle gs

theorem styleBehind_eq_nil (gs : List Group) : styleBehind gs = [] ↔ gs = [] := by
  by_cases h : gs = [] <;> simp [styleBehind, h]

theorem styleBehind_start (gs : List Group) :
    styleBehind gs = [] ∨ beginsControl (styleBehind gs) = true := by
  by_cases h : gs = []
  · exact .inl ((styleBehind_eq_nil gs).2 h)
  · right
    rw [styleBehind, if_neg h]
    rfl

theorem groupsToStyle_cons (g : Group) (gs : List Group) :
    groupsToStyle (g :: gs) = g.toStyle ++ styleBehind gs := by
  cases gs with
  | nil => simp [groupsToStyle, styleBehind, Text.join]
  | cons h gs => simp [groupsToStyle, styleBehind, Text.join]

/-- The condition on a list of groups is one on each group and what is written behind it. -/
theorem slashLast_cons (g : Group) (gs : List Group) :
    SlashLast (g :: gs) ↔ g.BackslashLast (styleBehind gs) ∧ SlashLast gs := by
  constructor
  · intro h
    refine ⟨fun left s right t hsplit ht hlast => ?_, fun before g' after left s right t hgs => ?_⟩
    · rw [styleBehind_eq_nil]
      exact h [] g gs left s right t rfl hsplit ht hlast
    · exact h (g :: before) g' after left s right t (by rw [hgs, List.cons_append])
  · rintro ⟨hg, hgs⟩ before g' after left s right t hsplit hseg ht hlast
    cases before with
    | nil =>
      obtain ⟨rfl, rfl⟩ := List.cons.inj hsplit
      rw [← styleBehind_eq_nil]
      exact hg left s right t hseg ht hlast
    | cons _ before =>
      exact hgs before g' after left s right t (List.cons.inj hsplit).2 hseg ht hlast

/-- The text of a group in front of the text of lines, of which the first is empty. -/
theorem lines_toStyle {g : Group} {behind : Text} {gs : List Group} (hg : g.Normal)
    (hb : behind = [] ∨ beginsControl behind = true) (hs : g.BackslashLast behind)
    (h : ∀ position free, Lines (ofPlaced (placed position free (ofStyle behind))) [] gs)
    (position free : Nat) :
    Lines (ofPlaced (placed position free (ofStyle (g.toStyle ++ behind)))) g gs := by
  obtain ⟨ts, hspell, heq⟩ := exists_spelled hg behind hb hs
  obtain ⟨qs, hqs, _, hlines⟩ := hspell.pieces hg position free (ofStyle behind)
  rw [heq, hqs]
  exact hlines _ _ (h _ _)

theorem lines_styleBehind {gs : List Group} (hn : ∀ g ∈ gs, Group.Normal g) (hs : SlashLast gs)
    (position free : Nat) :
    Lines (ofPlaced (placed position free (ofStyle (styleBehind gs)))) [] gs := by
  induction gs generalizing position free with
  | nil => exact .nil
  | cons g gs ih =>
    obtain ⟨hg, hn⟩ := List.forall_mem_cons.1 hn
    obtain ⟨hlast, hs⟩ := (slashLast_cons g gs).1 hs
    have hpipe : ofStyle (styleBehind (g :: gs)) = .pipe :: ofStyle (groupsToStyle (g :: gs)) := by
      rw [styleBehind, if_neg (by simp), ofStyle_cons, push_control rfl]
    rw [hpipe, placed_token (by simp) (by simp), ofPlaced_single _ _ (by simp), groupsToStyle_cons]
    exact .pipe (lines_toStyle hg (styleBehind_start gs) hlast (ih hn hs) _ _)

theorem loneSlashes_styleBehind (gs : List Group) :
    loneSlashes (styleBehind gs) = loneSlashes (groupsToStyle gs) := by
  cases gs with
  | nil => rfl
  | cons g gs =>
    rw [styleBehind, if_neg (by simp)]
    exact loneSlashes_control rfl _

theorem loneSlashes_groupsToStyle (gs : List Group) :
    loneSlashes (groupsToStyle gs) ≤ (gs.map Group.slashes).sum := by
  induction gs with
  | nil => simp [groupsToStyle, Text.join, loneSlashes, ofStyle]
  | cons g gs ih =>
    have hle := loneSlashes_toStyle g (styleBehind gs)
    rw [groupsToStyle_cons, List.map_cons, List.sum_cons]
    rw [loneSlashes_styleBehind] at hle
    omega

theorem slashLast_of_slashes {gs : List Group} (hn : ∀ g ∈ gs, Group.Normal g)
    (h : loneSlashes (groupsToStyle gs) = (gs.map Group.slashes).sum) : SlashLast gs := by
  induction gs with
  | nil => simp [SlashLast]
  | cons g gs ih =>
    obtain ⟨hg, hgs⟩ := List.forall_mem_cons.1 hn
    rw [groupsToStyle_cons, List.map_cons, List.sum_cons] at h
    have hle := loneSlashes_toStyle g (styleBehind gs)
    have hrest := loneSlashes_groupsToStyle gs
    have hbehind := loneSlashes_styleBehind gs
    rw [slashLast_cons]
    exact ⟨backslashLast_of_slashes hg (styleBehind_start gs) (by omega), ih hgs (by omega)⟩

/-- A template in normal form comes back from its style text exactly if every literal that ends in
a backslash ends the text. -/
theorem ofStyle_toStyle_iff (t : Template) (h : NormalForm t.groups) :
    (Template.ofStyle t.toStyle).groups = t.groups ↔ SlashLast t.groups := by
  constructor
  · intro heq
    apply slashLast_of_slashes fun g hg => (h g hg).2
    have hslashes := slashes_ofStyle t.toStyle
    rw [heq] at hslashes
    exact hslashes.symm
  · intro hs
    cases hgs : t.groups with
    | nil =>
      rw [Template.toStyle, hgs]
      rfl
    | cons g gs =>
      rw [hgs] at hs h
      obtain ⟨hg, hrest⟩ := List.forall_mem_cons.1 h
      obtain ⟨hlast, hs⟩ := (slashLast_cons g gs).1 hs
      have hbehind := lines_styleBehind (fun g' hg' => (hrest g' hg').2) hs
      have hl := lines_toStyle hg.2 (styleBehind_start gs) hlast hbehind 0 0
      rw [← placed_zero, ← groupsToStyle_cons] at hl
      rw [Template.ofStyle, Template.toStyle, hgs, groupsOfTokens_eq hl, keptLines,
        List.filter_eq_self]
      intro g' hg'
      simpa using (h g' hg').1

/-- A backslash at the very end comes back; one in front of a field does not. -/
theorem ofStyle_toStyle_backslash :
    let kept : Template := ⟨[], [[.subgroup [.literal ['\\', 'a', '|'], .subgroup []], .field .title],
      [.literal ['{', 'T', '}', '\\']]]⟩
    let lost : Template := ⟨[], [[.literal ['\\'], .field .title]]⟩
    (NormalForm kept.groups ∧ (Template.ofStyle kept.toStyle).groups = kept.groups) ∧
      NormalForm lost.groups ∧ (Template.ofStyle lost.toStyle).groups ≠ lost.groups := by
  intro kept lost
  have hinner : Group.Normal [.literal ['\\', 'a', '|'], .subgroup []] :=
    .literal (by simp) (by simp) (.subgroup .nil .nil)
  have hkept : NormalForm kept.groups := by
    refine List.forall_mem_cons.2 ⟨⟨by simp, .subgroup hinner (.field .nil)⟩, ?_⟩
    exact List.forall_mem_singleton.2 ⟨by simp, .literal (by simp) (by simp) .nil⟩
  have hlost : NormalForm lost.groups :=
    List.forall_mem_singleton.2 ⟨by simp, .literal (by simp) (by simp) (.field .nil)⟩
  have hlast : SlashLast kept.groups := by
    apply slashLast_of_slashes fun g hg => (hkept g hg).2
    simp [kept, groupsToStyle, Text.join, spellLiteral, control?]
    rfl
  have hnot : ¬SlashLast lost.groups := by
    intro h
    have := h [] _ [] [] (.literal ['\\']) [.field .title] ['\\'] rfl rfl .literal rfl
    simp at this
  exact ⟨⟨hkept, (ofStyle_toStyle_iff kept hkept).2 hlast⟩, hlost,
    fun heq => hnot ((ofStyle_toStyle_iff lost hlost).1 heq)⟩

end RadioText
