import RadioText.Proofs.Style.Normalize
import RadioText.Proofs.Text.Ends

/-! A style that is written back and loses the white space at its end. Only a literal can end in
white space, and only the last segment of the last group is written at the end; so what is lost is
the end of that literal, or all of it, and then the group too if it has no other segment. -/
namespace RadioText
open Token Grammar

def Group.EndsLiteral (g : Group) : Prop := ∃ f t, g = f ++ [Segment.literal t]

def Group.trimEnd (g : Group) : Group :=
  match g.getLast? with
  | some (.literal t) => if t.blank then g.dropLast else g.dropLast ++ [Segment.literal t.trimEnd]
  | _ => g

def trimLines (gs : List Group) : List Group :=
  match gs.getLast? with
  | some g => gs.dropLast ++ keptLines [g.trimEnd]
  | none => []

def EndsBlank (gs : List Group) : Prop :=
  ∃ before g t c, gs = before ++ [g ++ [Segment.literal t]] ∧ t.getLast? = some c ∧ isBlank c = true

namespace Group

theorem trimEnd_concat_literal (g : Group) (t : Text) :
    trimEnd (g ++ [Segment.literal t]) =
      if t.blank then g else g ++ [Segment.literal t.trimEnd] := by
  simp [trimEnd]

theorem trimEnd_eq_self {g : Group} (h : ¬g.EndsLiteral) : g.trimEnd = g := by
  rcases List.eq_nil_or_concat g with rfl | ⟨f, s, rfl⟩
  · rfl
  · cases s with
    | literal t => exact absurd ⟨f, t, List.concat_eq_append ..⟩ h
    | field k => simp [trimEnd]
    | subgroup inner => simp [trimEnd]

theorem not_endsLiteral_cons {s : Segment} {g : Group} (hs : g = [] → ∀ u, s ≠ .literal u)
    (hg : ¬g.EndsLiteral) : ¬EndsLiteral (s :: g) := by
  rintro ⟨f, u, heq⟩
  cases f with
  | nil =>
    obtain ⟨rfl, rfl⟩ := List.cons.inj heq
    exact hs rfl u rfl
  | cons _ f => exact hg ⟨f, u, (List.cons.inj heq).2⟩

theorem Normal.of_concat_literal_ne_nil {g : Group} {t : Text}
    (h : Normal (g ++ [Segment.literal t])) : t ≠ [] := by
  induction g with
  | nil =>
    cases h with
    | literal ht _ _ => exact ht
  | cons s g ih =>
    cases h with
    | literal _ _ hn | field hn | subgroup _ hn => exact ih hn

/-- In front of the literal that a normal group ends in there is a normal group that ends in none,
and any other literal may stand in its place. -/
theorem Normal.of_concat_literal {g : Group} {t : Text} (h : Normal (g ++ [Segment.literal t])) :
    Normal g ∧ ¬g.EndsLiteral ∧ ∀ u, u ≠ [] → Normal (g ++ [Segment.literal u]) := by
  induction g with
  | nil => exact ⟨.nil, by simp [EndsLiteral], fun u hu => .literal hu (by simp) .nil⟩
  | cons s g ih =>
    cases h with
    | @literal v _ hv hnext hn =>
      obtain ⟨hg, hends, hother⟩ := ih hn
      have hne : g ≠ [] := by
        rintro rfl
        exact hnext t [] rfl
      have hg' : ∀ u rest, g ≠ .literal u :: rest := by
        rintro u rest rfl
        exact hnext u _ rfl
      refine ⟨.literal hv hg' hg, not_endsLiteral_cons (fun h => absurd h hne) hends,
        fun u hu => .literal hv ?_ (hother u hu)⟩
      intro w rest heq
      obtain ⟨s, g, rfl⟩ := List.exists_cons_of_ne_nil hne
      exact hg' w g (by rw [(List.cons.inj heq).1])
    | field hn =>
      obtain ⟨hg, hends, hother⟩ := ih hn
      exact ⟨.field hg, not_endsLiteral_cons (by simp) hends, fun u hu => .field (hother u hu)⟩
    | subgroup hi hn =>
      obtain ⟨hg, hends, hother⟩ := ih hn
      exact ⟨.subgroup hi hg, not_endsLiteral_cons (by simp) hends,
        fun u hu => .subgroup hi (hother u hu)⟩

theorem Normal.trimEnd {g : Group} (h : g.Normal) : g.trimEnd.Normal := by
  by_cases hends : g.EndsLiteral
  · obtain ⟨f, t, rfl⟩ := hends
    obtain ⟨hf, _, hother⟩ := h.of_concat_literal
    rw [trimEnd_concat_literal]
    split
    · exact hf
    · rename_i hblank
      exact hother _ fun h => hblank ((Text.trimEnd_eq_nil_iff t).1 h)
  · rwa [trimEnd_eq_self hends]

end Group

/-! ### What is written -/

theorem not_isBlank_of_control {c : Char} (h : (control? c).isSome = true) : isBlank c = false := by
  unfold control? at h
  split at h <;> first | rfl | cases h

theorem spellLiteral_append (t u : Text) :
    spellLiteral (t ++ u) = spellLiteral t ++ spellLiteral u :=
  List.flatMap_append

theorem spellLiteral_of_blank {t : Text} (h : ∀ c ∈ t, isBlank c = true) : spellLiteral t = t := by
  induction t with
  | nil => rfl
  | cons c t ih =>
    obtain ⟨hc, ht⟩ := List.forall_mem_cons.1 h
    have hplain : control? c = none := by
      rw [← Option.not_isSome_iff_eq_none]
      intro hcontrol
      rw [not_isBlank_of_control hcontrol] at hc
      cases hc
    rw [spellLiteral_plain hplain, ih ht]

theorem getLast?_spellLiteral (t : Text) : (spellLiteral t).getLast? = t.getLast? := by
  induction t with
  | nil => rfl
  | cons c t ih =>
    cases hc : control? c with
    | some tok =>
      rw [spellLiteral_control hc, List.getLast?_cons, List.getLast?_cons, List.getLast?_cons, ih]
      rfl
    | none => rw [spellLiteral_plain hc, List.getLast?_cons, List.getLast?_cons, ih]

/-- Written literals have white space where the literals have it. -/
theorem trimEnd_spellLiteral (t : Text) : (spellLiteral t).trimEnd = spellLiteral t.trimEnd := by
  obtain ⟨after, ht, hafter⟩ := Text.exists_dropEnd isBlank t
  have hblank : ∀ c ∈ after, isBlank c = true := List.all_eq_true.1 hafter
  have hsolid : (spellLiteral t.trimEnd).Solid := fun c hc =>
    Text.solid_trimEnd t c (getLast?_spellLiteral t.trimEnd ▸ hc)
  calc
    (spellLiteral t).trimEnd = (spellLiteral (t.trimEnd ++ after)).trimEnd :=
      congrArg (Text.trimEnd <| spellLiteral ·) ht
    _ = (spellLiteral t.trimEnd ++ after).trimEnd := by
      rw [spellLiteral_append, spellLiteral_of_blank hblank]
    _ = (spellLiteral t.trimEnd).trimEnd := Text.dropEnd_append_of_forall hblank _
    _ = spellLiteral t.trimEnd := (Text.trimEnd_eq_self_iff _).2 hsolid

theorem Group.toStyle_append (g h : Group) : Group.toStyle (g ++ h) = g.toStyle ++ h.toStyle := by
  rw [toStyle, visits_append, List.flatMap_append, toStyle, toStyle]

theorem Group.solid_toStyle {g : Group} (h : ¬g.EndsLiteral) : g.toStyle.Solid := by
  rcases List.eq_nil_or_concat g with rfl | ⟨f, s, rfl⟩
  · simp [Text.Solid]
  · rw [List.concat_eq_append, toStyle_append]
    cases s with
    | literal t => exact absurd ⟨f, t, List.concat_eq_append ..⟩ h
    | field k =>
      have hend : toStyle [.field k] = ['{', k.code] ++ ['}'] := by simp
      rw [hend, ← List.append_assoc]
      exact Text.solid_concat rfl _
    | subgroup inner =>
      have hend : toStyle [.subgroup inner] = '[' :: toStyle inner ++ [']'] := by simp
      rw [hend, ← List.append_assoc]
      exact Text.solid_concat rfl _

def styleAhead (gs : List Group) : Text := gs.flatMap fun g => g.toStyle ++ ['|']

theorem groupsToStyle_concat (gs : List Group) (g : Group) :
    groupsToStyle (gs ++ [g]) = styleAhead gs ++ g.toStyle := by
  induction gs with
  | nil => simp [groupsToStyle_cons, styleBehind, styleAhead]
  | cons h gs ih =>
    rw [List.cons_append, groupsToStyle_cons, styleBehind, if_neg (by simp), ih]
    simp [styleAhead]

theorem solid_styleAhead (gs : List Group) : (styleAhead gs).Solid := by
  rcases List.eq_nil_or_concat gs with rfl | ⟨gs, g, rfl⟩
  · simp [styleAhead, Text.Solid]
  · have hend : styleAhead (gs.concat g) = styleAhead gs ++ g.toStyle ++ ['|'] := by
      simp [styleAhead]
    rw [hend]
    exact Text.solid_concat rfl _

theorem Group.toStyle_concat_literal (g : Group) (t : Text) :
    Group.toStyle (g ++ [Segment.literal t]) = g.toStyle ++ spellLiteral t := by
  simp [toStyle_append]

theorem Group.toStyle_trimEnd (g : Group) (t : Text) :
    toStyle (trimEnd (g ++ [Segment.literal t])) = g.toStyle ++ spellLiteral t.trimEnd := by
  rw [trimEnd_concat_literal]
  split
  · rename_i hblank
    rw [(Text.trimEnd_eq_nil_iff t).2 hblank, spellLiteral, List.flatMap_nil, List.append_nil]
  · exact toStyle_concat_literal g _

/-- The text without the white space at its end is the text of the groups without it. -/
theorem trimEnd_groupsToStyle (gs : List Group) {g : Group} (hg : g.Normal) :
    (groupsToStyle (gs ++ [g])).trimEnd = groupsToStyle (gs ++ [g.trimEnd]) := by
  rw [groupsToStyle_concat, groupsToStyle_concat]
  by_cases hends : g.EndsLiteral
  · obtain ⟨f, t, rfl⟩ := hends
    obtain ⟨_, hf, _⟩ := hg.of_concat_literal
    have hsolid := (solid_styleAhead gs).append (Group.solid_toStyle hf)
    rw [Group.toStyle_trimEnd, Group.toStyle_concat_literal, ← List.append_assoc,
      hsolid.trimEnd_append, trimEnd_spellLiteral, List.append_assoc]
  · rw [Group.trimEnd_eq_self hends]
    exact (Text.trimEnd_eq_self_iff _).2 ((solid_styleAhead gs).append (Group.solid_toStyle hends))

/-! ### What is read again -/

/-- A group that something is written behind. -/
theorem Group.backslashLast_iff_unslashed {g : Group} {after : Text} (h : after ≠ []) :
    g.BackslashLast after ↔ g.Unslashed := by
  constructor
  · intro hg s hs t ht hlast
    obtain ⟨left, right, rfl⟩ := List.append_of_mem hs
    exact h (hg left s right t rfl ht hlast).2.2
  · rintro hg left s right t rfl ht hlast
    exact absurd hlast (hg s (by simp) t ht)

theorem Group.backslashLast_concat_literal (g : Group) (t : Text) :
    Group.BackslashLast (g ++ [Segment.literal t]) [] ↔ g.Unslashed := by
  constructor
  · intro hg s hs u hu hlast
    obtain ⟨left, right, rfl⟩ := List.append_of_mem hs
    have hright := (hg left s (right ++ [Segment.literal t]) u (by simp) hu hlast).2.1
    simp at hright
  · intro hg left s right u hsplit hu hlast
    rcases mem_or_last hsplit with hmem | ⟨rfl, rfl⟩
    · exact absurd hlast (hg s hmem u hu)
    · cases hu
      exact ⟨rfl, rfl, rfl⟩

theorem slashLast_concat (gs : List Group) (g : Group) :
    SlashLast (gs ++ [g]) ↔ (∀ h ∈ gs, h.Unslashed) ∧ g.BackslashLast [] := by
  induction gs with
  | nil =>
    rw [List.nil_append, slashLast_cons]
    simp [styleBehind, SlashLast]
  | cons h gs ih =>
    have hbehind : styleBehind (gs ++ [g]) ≠ [] := by simp [styleBehind_eq_nil]
    rw [List.cons_append, slashLast_cons, ih, Group.backslashLast_iff_unslashed hbehind,
      List.forall_mem_cons, and_assoc]

theorem Group.BackslashLast.trimEnd {g : Group} (h : g.BackslashLast []) :
    g.trimEnd.BackslashLast [] := by
  by_cases hends : g.EndsLiteral
  · obtain ⟨f, t, rfl⟩ := hends
    have hf := (backslashLast_concat_literal f t).1 h
    rw [trimEnd_concat_literal]
    split
    · rintro left s right u rfl hu hlast
      exact absurd hlast (hf s (by simp) u hu)
    · exact (backslashLast_concat_literal f _).2 hf
  · rwa [trimEnd_eq_self hends]

theorem trimLines_concat (gs : List Group) (g : Group) :
    trimLines (gs ++ [g]) = gs ++ keptLines [g.trimEnd] := by
  simp [trimLines]

theorem Group.trimEnd_eq_self_iff {g : Group} (h : g.Normal) :
    g.trimEnd = g ↔ ∀ f t, g = f ++ [Segment.literal t] → t.Solid := by
  by_cases hends : g.EndsLiteral
  · obtain ⟨f, t, rfl⟩ := hends
    have hsolid : (∀ f' t', f ++ [Segment.literal t] = f' ++ [Segment.literal t'] →
        Text.Solid t') ↔ t.Solid := by
      refine ⟨fun h => h f t rfl, fun h f' t' heq => ?_⟩
      cases (List.append_inj' heq rfl).2
      exact h
    rw [hsolid, ← Text.trimEnd_eq_self_iff, trimEnd_concat_literal]
    split
    · rename_i hblank
      have ht : t ≠ [] := h.of_concat_literal_ne_nil
      rw [(Text.trimEnd_eq_nil_iff t).2 hblank]
      simp [ht.symm]
    · simp
  · exact ⟨fun _ f t h => absurd ⟨f, t, h⟩ hends, fun _ => trimEnd_eq_self hends⟩

/-- Groups stay as they are unless they end in white space. -/
theorem trimLines_eq_self_iff {gs : List Group} (h : NormalForm gs) :
    trimLines gs = gs ↔ ¬EndsBlank gs := by
  rcases List.eq_nil_or_concat gs with rfl | ⟨gs, g, rfl⟩
  · simp [trimLines, EndsBlank]
  rw [List.concat_eq_append] at h ⊢
  obtain ⟨hne, hg⟩ := h g (by simp)
  have hkept : keptLines [g.trimEnd] = [g] ↔ g.trimEnd = g := by
    by_cases hempty : g.trimEnd = [] <;> simp [keptLines, hempty, hne.symm]
  rw [trimLines_concat, List.append_cancel_left_eq, hkept, Group.trimEnd_eq_self_iff hg]
  constructor
  · rintro hsolid ⟨before, f, t, c, heq, hc, hblank⟩
    cases (List.append_inj' heq rfl).2
    rw [hsolid f t rfl c hc] at hblank
    cases hblank
  · rintro hends f t rfl c hc
    by_contra hblank
    exact hends ⟨gs, f, t, c, rfl, hc, by simpa using hblank⟩

/-- A style that is written back is read as before, less the white space at its end, if that is cut
off. -/
theorem groups_trimEnd_normalizeStyle {s : Text} (h : SlashLast (Template.ofStyle s).groups) :
    (Template.ofStyle (normalizeStyle s).trimEnd).groups =
      trimLines (Template.ofStyle s).groups := by
  have hn := normalForm_groupsOfTokens (ofStyle s)
  rw [groups_ofStyle] at h ⊢
  rw [groups_ofStyle, normalizeStyle_eq]
  rcases List.eq_nil_or_concat (groupsOfTokens (ofStyle s)) with heq | ⟨gs, g, heq⟩
  · rw [heq]
    rfl
  · rw [List.concat_eq_append] at heq
    rw [heq] at h hn ⊢
    obtain ⟨hgs, hg⟩ := List.forall_mem_append.1 hn
    obtain ⟨_, hnormal⟩ := hg g (by simp)
    obtain ⟨hunslashed, hslash⟩ := (slashLast_concat gs g).1 h
    have hkept : keptLines gs = gs := List.filter_eq_self.2 fun f hf => by simpa using (hgs f hf).1
    have htrimmed : ∀ f ∈ gs ++ [g.trimEnd], Group.Normal f :=
      List.forall_mem_append.2 ⟨fun f hf => (hgs f hf).2,
        List.forall_mem_singleton.2 hnormal.trimEnd⟩
    rw [trimEnd_groupsToStyle gs hnormal, groupsOfTokens_groupsToStyle_eq_keptLines htrimmed
      ((slashLast_concat gs _).2 ⟨hunslashed, hslash.trimEnd⟩), trimLines_concat, keptLines,
      List.filter_append]
    exact congrArg (· ++ _) hkept

end RadioText
