import RadioText.Proofs.Style.Unslashed

/-! A style that is read and written back. It is read as before, unless it ends in a backslash
with a bracket still open: the closing bracket that is written then takes the backslash. What comes
of that ends in a bracket, so writing back a second time changes no group any more. -/
namespace RadioText
open Token Piece Matching Grammar

/-! ### Brackets left open -/

def LeavesOpen (qs : List (Nat × Nat)) (ts : List (Token × Nat)) : Prop :=
  ∃ before n after, ts = before ++ (.groupOpen, n) :: after ∧ qs.lookup n = none ∧
    ∀ t ∈ after, endsLine qs t = false

theorem leavesOpen_cons (qs : List (Nat × Nat)) (t : Token × Nat) (ts : List (Token × Nat)) :
    LeavesOpen qs (t :: ts) ↔
      (t.1 = .groupOpen ∧ qs.lookup t.2 = none ∧ ∀ u ∈ ts, endsLine qs u = false) ∨
        LeavesOpen qs ts := by
  constructor
  · rintro ⟨before, n, after, hsplit, hn, hafter⟩
    cases before with
    | nil =>
      obtain ⟨rfl, rfl⟩ := List.cons.inj hsplit
      exact .inl ⟨rfl, hn, hafter⟩
    | cons _ before => exact .inr ⟨before, n, after, (List.cons.inj hsplit).2, hn, hafter⟩
  · rintro (⟨ht, hn, hafter⟩ | ⟨before, n, after, rfl, hn, hafter⟩)
    · obtain ⟨t, n⟩ := t
      obtain rfl : t = .groupOpen := ht
      exact ⟨[], n, ts, rfl, hn, hafter⟩
    · exact ⟨t :: before, n, after, rfl, hn, hafter⟩

def leftOpen (qs : List (Nat × Nat)) : Nat → List (Token × Nat) → Nat
  | n, [] => n
  | n, t :: ts =>
    leftOpen qs
      (if endsLine qs t then 0
        else if t.1 = .groupOpen ∧ qs.lookup t.2 = none then n + 1 else n) ts

theorem leftOpen_pos (qs : List (Nat × Nat)) (n : Nat) (ts : List (Token × Nat)) :
    0 < leftOpen qs n ts ↔ (0 < n ∧ ∀ t ∈ ts, endsLine qs t = false) ∨ LeavesOpen qs ts := by
  induction ts generalizing n with
  | nil => simp [leftOpen, LeavesOpen]
  | cons t ts ih =>
    rw [leftOpen, ih, leavesOpen_cons, List.forall_mem_cons]
    cases hend : endsLine qs t with
    | true =>
      have hpipe : t.1 ≠ .groupOpen := by
        intro h
        simp [endsLine, h] at hend
      simp [hpipe]
    | false =>
      rw [if_neg Bool.false_ne_true]
      by_cases hopen : t.1 = .groupOpen ∧ qs.lookup t.2 = none
      · rw [if_pos hopen]
        simp only [hopen.1, hopen.2, Nat.succ_pos, true_and]
        tauto
      · have hno : ¬(t.1 = .groupOpen ∧ qs.lookup t.2 = none ∧ ∀ u ∈ ts, endsLine qs u = false) :=
          fun h => hopen ⟨h.1, h.2.1⟩
        simp only [if_neg hopen, hno, true_and, false_or]

theorem leftOpen_skip {qs : List (Nat × Nat)} {t : Token × Nat} (hend : endsLine qs t = false)
    (ho : t.1 = .groupOpen → qs.lookup t.2 ≠ none) (n : Nat) (ts : List (Token × Nat)) :
    leftOpen qs n (t :: ts) = leftOpen qs n ts := by
  have hno : ¬(t.1 = .groupOpen ∧ qs.lookup t.2 = none) := fun h => ho h.1 h.2
  rw [leftOpen, hend, if_neg Bool.false_ne_true, if_neg hno]

theorem Parser.enclosing_reference (p : Parser) (c : Char) :
    (p.step (Piece.reference c)).enclosing = p.enclosing := by
  rw [Piece.reference]
  cases Field.ofCode? c <;> rfl

/-- The parser has on its stack the open pairs and the brackets left open. -/
theorem Grammar.Roles.enclosing_foldl {qs : List (Nat × Nat)} {depth : Nat}
    {ts : List (Token × Nat)} {ps : List Piece} (h : Roles qs depth ts ps) {p : Parser} {n : Nat}
    (hp : p.pairedDepth = depth) (hn : p.enclosing.length = depth + n) :
    (ps.foldl Parser.step p).enclosing.length = leftOpen qs n ts := by
  induction h generalizing p n with
  | nil => simpa [leftOpen] using hn
  | @text _ t m ho hc hpipe ts ps _ ih =>
    have hrest := ih (p := p.step (.text t.literal)) hp hn
    rw [List.foldl_cons, hrest, leftOpen_skip (by simp [endsLine, hpipe]) fun h => absurd h ho]
  | @reference _ x c m hx ts ps _ ih =>
    obtain ⟨ho, _, hpipe⟩ := oneChar?_ne_bracket hx
    have hrest := ih (p := p.step (Piece.reference c)) (n := n)
      (by rw [p.pairedDepth_step, depthAfter_reference, hp])
      (by rw [Parser.enclosing_reference, hn])
    rw [List.foldl_cons, hrest, leftOpen_skip (by simp [endsLine]) (by simp),
      leftOpen_skip (by simp [endsLine, hpipe]) fun h => absurd h ho,
      leftOpen_skip (by simp [endsLine]) (by simp)]
  | @paired depth m hm ts ps _ ih =>
    have hlength : (p.step (.opening m true)).enclosing.length = depth + 1 + n := by
      simp [Parser.step, hn, Nat.add_right_comm]
    have hrest := ih (by simp [Parser.step, hp]) hlength
    have hsome : qs.lookup m ≠ none := Option.isSome_iff_ne_none.1 hm
    rw [List.foldl_cons, hrest, leftOpen_skip (by simp [endsLine]) fun _ => hsome]
  | @opened m hm ts ps _ ih =>
    have hlength : (p.step (.opening m false)).enclosing.length = 0 + (n + 1) := by
      simp [Parser.step, hn]
    have hrest := ih (p := p.step (.opening m false)) hp hlength
    rw [List.foldl_cons, hrest, leftOpen]
    simp [endsLine, hm]
  | @closing depth m hm ts ps _ ih =>
    have hlength : (p.step (.closing m)).enclosing.length = depth + n := by
      cases he : p.enclosing with
      | nil =>
        rw [he, List.length_nil] at hn
        omega
      | cons e rest =>
        rw [he, List.length_cons] at hn
        simp only [Parser.step, he]
        omega
    have hdepth : (p.step (.closing m)).pairedDepth = depth := by
      rw [p.pairedDepth_step, hp]
      rfl
    rw [List.foldl_cons, ih hdepth hlength, leftOpen_skip (by simp [endsLine]) (by simp)]
  | @unmatched m hm ts ps _ ih =>
    have hrest := ih (p := p.step (.text [']'])) hp hn
    rw [List.foldl_cons, hrest, leftOpen_skip (by simp [endsLine]) (by simp)]
  | @innerPipe _ m hm ts ps _ ih =>
    have hrest := ih (p := p.step (.text ['|'])) hp hn
    rw [List.foldl_cons, Parser.step_innerPipe (by omega), hrest,
      leftOpen_skip (by simp [endsLine, hm]) (by simp)]
  | @pipe m hm ts ps _ ih =>
    have hrest := ih (p := p.finish) (n := 0) hp rfl
    rw [List.foldl_cons, Parser.step_pipe hp, hrest, leftOpen]
    simp [endsLine, hm]

/-! ### What the parser leaves -/

/-- A literal of the group being read is in the group that is made of it, in a subgroup if anything
is open around it. -/
theorem Parser.exists_holds_unwind {d : Draft} (enclosing : List Enclosing) {s : Segment} {t : Text}
    (hs : s ∈ d.group) (ht : s.Holds t) :
    ∃ s' ∈ (unwind d enclosing).group, s'.Holds t ∧
      ((∀ u, s ≠ .literal u) ∨ enclosing ≠ [] → ∀ u, s' ≠ .literal u) := by
  induction enclosing generalizing d s with
  | nil => exact ⟨s, hs, ht, by simp⟩
  | cons e rest ih =>
    have hmem : Segment.subgroup d.group ∈ (e.parent.add (.subgroup d.group)).group := by
      simp [Draft.group, Draft.add, Draft.settled]
    obtain ⟨s', hs', ht', hne⟩ := ih hmem (.subgroup hs ht)
    exact ⟨s', hs', ht', fun _ => hne (.inl (by simp))⟩

theorem Draft.group_of_run {d : Draft} (h : d.run ≠ []) :
    d.group = d.segments.reverse ++ [.literal d.run.reverse] := by
  simp [group, settled, h]

/-- An element of a list that ends in `z` is in front of it, or is it. -/
theorem mem_or_last {α : Type} {xs before after : List α} {z a : α}
    (h : xs ++ [z] = before ++ a :: after) : a ∈ xs ∨ (a = z ∧ after = []) := by
  rcases List.eq_nil_or_concat after with rfl | ⟨after, b, rfl⟩
  · obtain ⟨rfl, hlast⟩ := List.append_inj' h rfl
    exact .inr ⟨(List.cons.inj hlast).1.symm, rfl⟩
  · rw [List.concat_eq_append, ← List.cons_append, ← List.append_assoc] at h
    obtain ⟨rfl, _⟩ := List.append_inj' h rfl
    exact .inl (by simp)

/-- The one literal that can end in a backslash is out of place if brackets are left open. -/
theorem Parser.slashLast_iff {p : Parser} (h : p.Unslashed) :
    SlashLast p.finish.groups.reverse ↔
      ¬(p.current.run.head? = some '\\' ∧ p.enclosing ≠ []) := by
  rw [finish_groups]
  constructor
  · rintro hs ⟨hr, he⟩
    have hrun : p.current.run ≠ [] := by
      intro h
      simp [h] at hr
    have hmem : Segment.literal p.current.run.reverse ∈ p.current.group := by
      simp [Draft.group_of_run hrun]
    obtain ⟨s, hsmem, ht, hne⟩ := exists_holds_unwind p.enclosing hmem .literal
    obtain ⟨left, right, hsplit⟩ := List.append_of_mem hsmem
    have hkept : keptLines [(unwind p.current p.enclosing).group] =
        [(unwind p.current p.enclosing).group] := by
      simp [keptLines, hsplit]
    have hlast := hs p.groups.reverse _ [] left s right p.current.run.reverse
      (by rw [hkept]) hsplit ht (by rwa [List.getLast?_reverse])
    exact hne (.inr he) _ hlast.1
  · intro hnot before g after left s right t hgs hg ht hlast
    by_cases hr : p.current.run.head? = some '\\'
    · -- The literal is the last segment of the last group.
      have he : p.enclosing = [] := by simpa [hr] using hnot
      have hrun : p.current.run ≠ [] := by
        intro h
        simp [h] at hr
      have hgroup : (unwind p.current p.enclosing).group =
          p.current.segments.reverse ++ [.literal p.current.run.reverse] := by
        rw [he, unwind, Draft.group_of_run hrun]
      rw [hgroup] at hgs
      have hkept (g : Group) (l : Segment) : keptLines [g ++ [l]] = [g ++ [l]] := by
        simp [keptLines]
      rw [hkept] at hgs
      rcases mem_or_last hgs with hmem | ⟨rfl, rfl⟩
      · exact absurd hlast (h.groups g (List.mem_reverse.1 hmem) s (by simp [hg]) t ht)
      rcases mem_or_last hg with hmem | ⟨rfl, rfl⟩
      · exact absurd hlast (h.current s (List.mem_reverse.1 hmem) t ht)
      · cases ht
        exact ⟨rfl, rfl, rfl⟩
    · have hall : ∀ g ∈ p.finish.groups, g.Unslashed := (h.finish hr).groups
      have hmem : g ∈ p.finish.groups := by
        rw [← List.mem_reverse, finish_groups, hgs]
        simp
      exact absurd hlast (hall g hmem s (by simp [hg]) t ht)

theorem Parser.enclosing_run_ne_nil (ts : List Token) :
    (run (ofTokens ts)).enclosing ≠ [] ↔ LeavesOpen (pairs ts) ts.zipIdx := by
  have hopen := (roles_ofTokens ts).enclosing_foldl (p := {}) (n := 0) rfl rfl
  have hleft := leftOpen_pos (pairs ts) 0 ts.zipIdx
  rw [← hopen, List.length_pos_iff] at hleft
  simpa [run] using hleft

theorem Parser.unslashed_run (s : Text) :
    (run (ofTokens (ofStyle s))).Unslashed ∧
      ((run (ofTokens (ofStyle s))).current.run.head? = some '\\' ↔
        (ofStyle s).getLast? = some .backslash) := by
  have hlexed : Lexed (.pipe :: (ofStyle s).zipIdx.map Prod.fst) := by
    rw [List.zipIdx_map_fst]
    exact lexed_structural (by simp [controlChar?]) (lexed_ofStyle s)
  have hstart : Parser.Unslashed {} := ⟨by simp, by simp [Group.Unslashed], by simp⟩
  obtain ⟨hu, hrun⟩ := (roles_ofTokens (ofStyle s)).unslashed_foldl hlexed hstart (by simp)
  refine ⟨hu, hrun.trans ?_⟩
  rw [List.zipIdx_map_fst]
  cases (ofStyle s).getLast? <;> simp

theorem slashLast_ofStyle (s : Text) :
    SlashLast (Template.ofStyle s).groups ↔
      ¬((ofStyle s).getLast? = some .backslash ∧
        LeavesOpen (pairs (ofStyle s)) (ofStyle s).zipIdx) := by
  obtain ⟨hu, hrun⟩ := Parser.unslashed_run s
  rw [Template.ofStyle, groupsOfTokens, Parser.slashLast_iff hu, hrun,
    Parser.enclosing_run_ne_nil]

theorem normalForm_groupsOfTokens (ts : List Token) : NormalForm (groupsOfTokens ts) := by
  obtain ⟨line, lines, hl⟩ := exists_lines_ofTokens ts
  rw [groupsOfTokens_eq hl]
  intro g hg
  obtain ⟨hmem, hne⟩ := List.mem_filter.1 hg
  exact ⟨by simpa using hne, hl.normal g hmem⟩

/-- Groups that can be written without harm come back, those without segments apart. -/
theorem groupsOfTokens_groupsToStyle_eq_keptLines {gs : List Group} (hn : ∀ g ∈ gs, Group.Normal g)
    (hs : SlashLast gs) : groupsOfTokens (ofStyle (groupsToStyle gs)) = keptLines gs := by
  cases gs with
  | nil => rfl
  | cons g gs =>
    obtain ⟨hg, hrest⟩ := List.forall_mem_cons.1 hn
    obtain ⟨hlast, hs⟩ := (slashLast_cons g gs).1 hs
    have hbehind := lines_styleBehind hrest hs
    have hl := lines_toStyle hg (styleBehind_start gs) hlast hbehind 0 0
    rw [← placed_zero, ← groupsToStyle_cons] at hl
    exact groupsOfTokens_eq hl

theorem groupsOfTokens_groupsToStyle {gs : List Group} (h : NormalForm gs) (hs : SlashLast gs) :
    groupsOfTokens (ofStyle (groupsToStyle gs)) = gs := by
  rw [groupsOfTokens_groupsToStyle_eq_keptLines (fun g hg => (h g hg).2) hs, keptLines,
    List.filter_eq_self]
  intro g hg
  simpa using (h g hg).1

theorem normalizeStyle_eq (s : Text) :
    normalizeStyle s = groupsToStyle (groupsOfTokens (ofStyle s)) := rfl

theorem groups_ofStyle (s : Text) : (Template.ofStyle s).groups = groupsOfTokens (ofStyle s) := rfl

theorem groups_normalizeStyle_iff (s : Text) :
    (Template.ofStyle (normalizeStyle s)).groups = (Template.ofStyle s).groups ↔
      SlashLast (Template.ofStyle s).groups := by
  have hn := normalForm_groupsOfTokens (ofStyle s)
  have hslashes := slashes_ofStyle (normalizeStyle s)
  rw [groups_ofStyle, normalizeStyle_eq] at hslashes
  rw [groups_ofStyle, groups_ofStyle, normalizeStyle_eq]
  constructor
  · intro h
    rw [h] at hslashes
    exact slashLast_of_slashes (fun g hg => (hn g hg).2) hslashes.symm
  · exact groupsOfTokens_groupsToStyle hn

/-! ### Writing back twice -/

theorem Parser.exists_group_unwind (d : Draft) {enclosing : List Enclosing} (h : enclosing ≠ []) :
    ∃ g inner, (unwind d enclosing).group = g ++ [.subgroup inner] := by
  induction enclosing generalizing d with
  | nil => exact absurd rfl h
  | cons e rest ih =>
    cases rest with
    | nil =>
      refine ⟨e.parent.group, d.group, ?_⟩
      simp [unwind, Draft.group, Draft.add, Draft.settled]
    | cons e' rest => exact ih _ (by simp)

theorem exists_toStyle_concat (g inner : Group) :
    ∃ front, Group.toStyle (g ++ [.subgroup inner]) = front ++ [']'] := by
  refine ⟨g.toStyle ++ '[' :: inner.toStyle, ?_⟩
  have happend : Group.toStyle (g ++ [.subgroup inner]) =
      g.toStyle ++ Group.toStyle [.subgroup inner] := by
    rw [Group.toStyle, Group.visits_append, List.flatMap_append, Group.toStyle, Group.toStyle]
  simp [happend]

theorem exists_groupsToStyle_concat (gs : List Group) (g : Group) :
    ∃ front, groupsToStyle (gs ++ [g]) = front ++ g.toStyle := by
  induction gs with
  | nil => exact ⟨[], by simp [groupsToStyle_cons, styleBehind]⟩
  | cons h gs ih =>
    obtain ⟨front, heq⟩ := ih
    refine ⟨h.toStyle ++ '|' :: front, ?_⟩
    rw [List.cons_append, groupsToStyle_cons, styleBehind, if_neg (by simp), heq]
    simp

theorem getLast?_ofStyle_of_bracket (front : Text) :
    (ofStyle (front ++ [']'])).getLast? ≠ some .backslash := by
  intro h
  obtain ⟨ts, hts⟩ := List.getLast?_eq_some_iff.1 h
  have hdisplay := flatMap_display_ofStyle (front ++ [']'])
  rw [hts, List.flatMap_append] at hdisplay
  have hlast := (List.append_inj' hdisplay rfl).2
  simp [display, Token.literal] at hlast

/-- Where a bracket is left open, the last group written ends in a closing bracket. -/
theorem exists_normalizeStyle_concat {s : Text}
    (h : LeavesOpen (pairs (ofStyle s)) (ofStyle s).zipIdx) :
    ∃ front, normalizeStyle s = front ++ [']'] := by
  have henclosing := (Parser.enclosing_run_ne_nil (ofStyle s)).2 h
  obtain ⟨g, inner, hg⟩ :=
    Parser.exists_group_unwind (Parser.run (ofTokens (ofStyle s))).current henclosing
  have hkept : keptLines [g ++ [Segment.subgroup inner]] = [g ++ [.subgroup inner]] := by
    simp [keptLines]
  obtain ⟨before, hbefore⟩ := exists_toStyle_concat g inner
  obtain ⟨front, hfront⟩ := exists_groupsToStyle_concat
    (Parser.run (ofTokens (ofStyle s))).groups.reverse (g ++ [.subgroup inner])
  refine ⟨front ++ before, ?_⟩
  rw [normalizeStyle_eq, groupsOfTokens, Parser.finish_groups, hg, hkept, hfront, hbefore,
    List.append_assoc]

/-- A style that is read and written back is read as before, unless it ends in a backslash with a
bracket left open. Writing back twice always gives what writing back any more often would. -/
theorem normalizeStyle_settles (s : Text) :
    ((Template.ofStyle (normalizeStyle s)).groups = (Template.ofStyle s).groups ↔
      ¬((ofStyle s).getLast? = some .backslash ∧
        LeavesOpen (pairs (ofStyle s)) (ofStyle s).zipIdx)) ∧
    normalizeStyle (normalizeStyle (normalizeStyle s)) = normalizeStyle (normalizeStyle s) := by
  refine ⟨(groups_normalizeStyle_iff s).trans (slashLast_ofStyle s), ?_⟩
  -- Writing back gives the same as long as the groups are the same.
  have same {t u : Text} (h : (Template.ofStyle t).groups = (Template.ofStyle u).groups) :
      normalizeStyle t = normalizeStyle u := by
    rw [normalizeStyle_eq, normalizeStyle_eq, ← groups_ofStyle, ← groups_ofStyle, h]
  by_cases hlast : SlashLast (Template.ofStyle s).groups
  · have hgroups := (groups_normalizeStyle_iff s).2 hlast
    rw [same hgroups, same hgroups]
  · have hopen := not_not.1 fun h => hlast ((slashLast_ofStyle s).2 h)
    obtain ⟨front, hfront⟩ := exists_normalizeStyle_concat hopen.2
    have hbracket : SlashLast (Template.ofStyle (normalizeStyle s)).groups := by
      rw [slashLast_ofStyle, hfront]
      exact fun h => getLast?_ofStyle_of_bracket front h.1
    exact same ((groups_normalizeStyle_iff (normalizeStyle s)).2 hbracket)

end RadioText
