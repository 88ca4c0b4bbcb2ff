import RadioText.Style.Writer
import RadioText.Proofs.Style.Grammar
import RadioText.Proofs.Style.Tokens
import RadioText.Proofs.Style.Walk

/-! A group written as style text and read again. The writer's text is split into tokens by
`Token.ofStyle` exactly where the writer put segments together, as long as no literal ends in a
backslash that a control character follows; the pieces of these tokens stand for the group. -/
namespace RadioText
open Token Piece Matching Grammar

namespace Group

@[simp] theorem toStyle_nil : toStyle [] = [] := by
  simp [toStyle]

@[simp] theorem toStyle_literal (t : Text) (g : Group) :
    toStyle (.literal t :: g) = spellLiteral t ++ toStyle g := by
  simp [toStyle, Visit.spell]

@[simp] theorem toStyle_field (k : Field) (g : Group) :
    toStyle (.field k :: g) = '{' :: k.code :: '}' :: toStyle g := by
  simp [toStyle, Visit.spell, Field.display]

@[simp] theorem toStyle_subgroup (inner g : Group) :
    toStyle (.subgroup inner :: g) = '[' :: (toStyle inner ++ ']' :: toStyle g) := by
  simp [toStyle, Visit.spell]

/-- What follows a literal of a normal group is a control character or what follows the group. -/
theorem beginsControl_toStyle {g : Group} (hg : ∀ u rest, g ≠ .literal u :: rest) (after : Text) :
    g = [] ∨ beginsControl (g.toStyle ++ after) = true := by
  match g with
  | [] => exact .inl rfl
  | .literal u :: rest => exact absurd rfl (hg u rest)
  | .field _ :: _ | .subgroup _ :: _ =>
    right
    simp [beginsControl, control?]

end Group

theorem spellLiteral_control {c : Char} {tok : Token} (h : control? c = some tok) (t : Text) :
    spellLiteral (c :: t) = '\\' :: c :: spellLiteral t := by
  simp [spellLiteral, h]

theorem spellLiteral_plain {c : Char} (h : control? c = none) (t : Text) :
    spellLiteral (c :: t) = c :: spellLiteral t := by
  simp [spellLiteral, h]

inductive Spelled : List Token → Group → Prop
  | nil : Spelled [] []
  | literal {ws ts : List Token} {t : Text} {g : Group}
    (hw : ∀ w ∈ ws, w.controlChar? = none) (ht : ws.flatMap Token.literal = t) :
    Spelled ts g → Spelled (ws ++ ts) (.literal t :: g)
  | field (k : Field) {ts : List Token} {g : Group} :
    Spelled ts g → Spelled (.fieldOpen :: .text [k.code] :: .fieldClose :: ts) (.field k :: g)
  | subgroup {is ts : List Token} {inner g : Group} :
    Spelled is inner → Spelled ts g →
      Spelled (.groupOpen :: (is ++ .groupClose :: ts)) (.subgroup inner :: g)

/-- A literal is read as plain tokens. What follows it must not join its last token: it begins with
a control character, or it is empty, as it has to be after a backslash. -/
theorem exists_plain (t after : Text) (ha : after = [] ∨ beginsControl after = true)
    (hs : t.getLast? = some '\\' → after = []) :
    ∃ ws, (∀ w ∈ ws, w.controlChar? = none) ∧ ws.flatMap Token.literal = t ∧
      ofStyle (spellLiteral t ++ after) = ws ++ ofStyle after := by
  induction t with
  | nil => exact ⟨[], by simp, rfl, rfl⟩
  | cons c t ih =>
    have hlast : t.getLast? = some '\\' → after = [] := by
      intro h
      apply hs
      rw [List.getLast?_cons, h]
      rfl
    obtain ⟨ws, hw, rfl, heq⟩ := ih hlast
    cases hc : control? c with
    | some tok =>
      refine ⟨.escaped c :: ws, List.forall_mem_cons.2 ⟨rfl, hw⟩, by simp [Token.literal], ?_⟩
      rw [spellLiteral_control hc, List.cons_append, List.cons_append, ofStyle_cons, ofStyle_cons,
        heq, push_control hc, push_backslash_structural (controlChar?_of_control? hc)]
      rfl
    | none =>
      rw [spellLiteral_plain hc, List.cons_append, ofStyle_cons, heq]
      by_cases hb : c = '\\'
      · subst hb
        refine ⟨.backslash :: ws, List.forall_mem_cons.2 ⟨rfl, hw⟩, by simp [Token.literal], ?_⟩
        cases ws with
        | nil =>
          -- The literal ends here, so nothing is behind that could take the backslash.
          obtain rfl := hs (by simp)
          rfl
        | cons w ws => exact push_backslash_plain (hw w (by simp)) _
      · have hjoin : (∀ r rest, ws ++ ofStyle after ≠ .text r :: rest) →
            push c (ws ++ ofStyle after) = .text [c] :: ws ++ ofStyle after := push_char hc hb
        match ws with
        | .text r :: ws =>
          refine ⟨.text (c :: r) :: ws, ?_, by simp [Token.literal], push_text hc hb r _⟩
          exact List.forall_mem_cons.2 ⟨rfl, (List.forall_mem_cons.1 hw).2⟩
        | [] =>
          refine ⟨[.text [c]], by simp [controlChar?], rfl, hjoin ?_⟩
          intro r rest h
          rcases ha with rfl | ha
          · cases h
          · obtain ⟨d, tok, ts, hd, htok⟩ := ofStyle_of_beginsControl ha
            rw [List.nil_append, hd] at h
            cases h
            cases htok
        | .fieldOpen :: ws | .fieldClose :: ws | .groupOpen :: ws | .groupClose :: ws
        | .pipe :: ws | .escaped _ :: ws | .backslash :: ws =>
          exact ⟨_, List.forall_mem_cons.2 ⟨rfl, hw⟩, by simp [Token.literal], hjoin (by simp)⟩

inductive Segment.Holds (t : Text) : Segment → Prop
  | literal : Holds t (.literal t)
  | subgroup {s : Segment} {g : Group} (hs : s ∈ g) : Holds t s → Holds t (.subgroup g)

/-- In a group with the text `after` behind it, a literal that ends in a backslash is the last
segment, and nothing is behind it. -/
def Group.BackslashLast (g : Group) (after : Text) : Prop :=
  ∀ left s right t, g = left ++ s :: right → s.Holds t → t.getLast? = some '\\' →
    s = .literal t ∧ right = [] ∧ after = []

theorem Group.BackslashLast.tail {s : Segment} {g : Group} {after : Text}
    (h : BackslashLast (s :: g) after) : g.BackslashLast after := by
  intro left s' right t hsplit
  exact h (s :: left) s' right t (by rw [hsplit]; rfl)

theorem Group.BackslashLast.inner {inner g : Group} {after : Text}
    (h : BackslashLast (.subgroup inner :: g) after) (behind : Text) :
    inner.BackslashLast behind := by
  intro left s right t hsplit ht hlast
  have hholds : (Segment.subgroup inner).Holds t := .subgroup (by simp [hsplit]) ht
  cases (h [] _ g t rfl hholds hlast).1

/-- The tokens of a group's text are those that spell the group. -/
theorem exists_spelled {g : Group} (hn : g.Normal) (after : Text)
    (ha : after = [] ∨ beginsControl after = true) (hs : g.BackslashLast after) :
    ∃ ts, Spelled ts g ∧ ofStyle (g.toStyle ++ after) = ts ++ ofStyle after := by
  induction hn generalizing after with
  | nil => exact ⟨[], .nil, by simp⟩
  | @literal t g ht hg hn ih =>
    have hnext : g.toStyle ++ after = [] ∨ beginsControl (g.toStyle ++ after) = true := by
      rcases Group.beginsControl_toStyle hg after with rfl | h
      · simpa using ha
      · exact .inr h
    have hlast : t.getLast? = some '\\' → g.toStyle ++ after = [] := by
      intro h
      obtain ⟨_, rfl, rfl⟩ := hs [] _ g t rfl .literal h
      simp
    obtain ⟨ts, hspell, heq⟩ := ih after ha hs.tail
    obtain ⟨ws, hw, hlit, hws⟩ := exists_plain t (g.toStyle ++ after) hnext hlast
    refine ⟨ws ++ ts, .literal hw hlit hspell, ?_⟩
    rw [Group.toStyle_literal, List.append_assoc, hws, heq, List.append_assoc]
  | @field k g hn ih =>
    obtain ⟨ts, hspell, heq⟩ := ih after ha hs.tail
    refine ⟨_, .field k hspell, ?_⟩
    have hcode : push k.code (.fieldClose :: (ts ++ ofStyle after)) =
        .text [k.code] :: .fieldClose :: (ts ++ ofStyle after) := by
      cases k <;> rfl
    rw [Group.toStyle_field, List.cons_append, List.cons_append, List.cons_append, ofStyle_cons,
      push_control (c := '{') rfl, ofStyle_cons, ofStyle_cons, push_control (c := '}') rfl, heq,
      hcode]
    rfl
  | @subgroup inner g hi hn ihInner ih =>
    obtain ⟨ts, hspell, heq⟩ := ih after ha hs.tail
    obtain ⟨is, hinner, heqInner⟩ :=
      ihInner (']' :: (g.toStyle ++ after)) (.inr rfl) (hs.inner _)
    refine ⟨_, .subgroup hinner hspell, ?_⟩
    rw [Group.toStyle_subgroup, List.cons_append, List.append_assoc, List.cons_append,
      ofStyle_cons, push_control (c := '[') rfl, heqInner, ofStyle_cons,
      push_control (c := ']') rfl, heq]
    simp

theorem ne_of_plain {w : Token} (h : w.controlChar? = none) :
    w ≠ .groupOpen ∧ w ≠ .groupClose ∧ w ≠ .pipe ∧ w ≠ .fieldOpen := by
  refine ⟨?_, ?_, ?_, ?_⟩ <;> rintro rfl <;> cases h

theorem balanced_plain {ws ts : List Token} (hw : ∀ w ∈ ws, w.controlChar? = none)
    (h : Balanced ts) : Balanced (ws ++ ts) := by
  induction ws with
  | nil => exact h
  | cons w ws ih =>
    obtain ⟨hplain, hw⟩ := List.forall_mem_cons.1 hw
    obtain ⟨ho, hc, _⟩ := ne_of_plain hplain
    exact .token ho hc (ih hw)

theorem Spelled.balanced {ts : List Token} {g : Group} (h : Spelled ts g) : Balanced ts := by
  induction h with
  | nil => exact .nil
  | literal hw _ _ ih => exact balanced_plain hw ih
  | field k _ ih =>
    exact .token (by simp) (by simp) (.token (by simp) (by simp) (.token (by simp) (by simp) ih))
  | subgroup _ _ ihInner ih => exact .pair ihInner ih

theorem ofPlaced_plain {ws : List Token} (hw : ∀ w ∈ ws, w.controlChar? = none)
    (position free : Nat) (ts : List Token) :
    ofPlaced (placed position free (ws ++ ts)) =
      ws.map (.text ·.literal) ++ ofPlaced (placed (position + ws.length) free ts) := by
  induction ws generalizing position with
  | nil => rfl
  | cons w ws ih =>
    obtain ⟨hplain, hw⟩ := List.forall_mem_cons.1 hw
    obtain ⟨ho, hc, hp, hf⟩ := ne_of_plain hplain
    rw [List.cons_append, placed_token ho hc, ofPlaced_single _ _ fun h => absurd h hf,
      single_text ho hc hp, ih hw, List.length_cons, Nat.add_right_comm, Nat.add_assoc]
    rfl

/-- The text of plain pieces in front of a group. -/
theorem nested_plain {qs : List Piece} {g : Group} (h : Nested qs g) (ws : List Token) :
    Nested (ws.map (.text ·.literal) ++ qs) (g.withText (ws.flatMap Token.literal)) := by
  induction ws with
  | nil => exact h
  | cons w ws ih =>
    rw [List.flatMap_cons, ← Group.withText_withText]
    exact ih.text w.literal

theorem lines_plain {qs : List Piece} {g : Group} {gs : List Group} (h : Lines qs g gs)
    (ws : List Token) :
    Lines (ws.map (.text ·.literal) ++ qs) (g.withText (ws.flatMap Token.literal)) gs := by
  induction ws with
  | nil => exact h
  | cons w ws ih =>
    rw [List.flatMap_cons, ← Group.withText_withText]
    exact ih.text w.literal

/-- The pieces of tokens that spell a group stand for the group: between brackets, and in front of
the end of a line. -/
theorem Spelled.pieces {ts : List Token} {g : Group} (h : Spelled ts g) (hn : g.Normal)
    (position free : Nat) (rest : List Token) :
    ∃ qs, ofPlaced (placed position free (ts ++ rest)) =
        qs ++ ofPlaced (placed (position + ts.length) free rest) ∧
      Nested qs g ∧ ∀ us gs, Lines us [] gs → Lines (qs ++ us) g gs := by
  induction h generalizing position free rest with
  | nil => exact ⟨[], rfl, .nil, fun _ _ h => h⟩
  | @literal ws ts t g hw ht _ ih =>
    cases hn with
    | literal hne hg hn =>
      obtain ⟨qs, heq, hnested, hlines⟩ := ih hn (position + ws.length) free rest
      have hjoin : g.withText (ws.flatMap Token.literal) = .literal t :: g := by
        rw [ht, Group.withText_of_ne_literal hne hg]
      refine ⟨ws.map (.text ·.literal) ++ qs, ?_, ?_, fun us gs hus => ?_⟩
      · rw [List.append_assoc, ofPlaced_plain hw, heq, List.append_assoc, List.length_append,
          Nat.add_assoc]
      · rw [← hjoin]
        exact nested_plain hnested ws
      · rw [← hjoin, List.append_assoc]
        exact lines_plain (hlines us gs hus) ws
  | @field k ts g _ ih =>
    cases hn with
    | field hn =>
      obtain ⟨qs, heq, hnested, hlines⟩ := ih hn (position + 3) free rest
      have href : reference k.code = .field k := by cases k <;> rfl
      refine ⟨.field k :: qs, ?_, hnested.field k, fun us gs hus => (hlines us gs hus).field k⟩
      rw [List.cons_append, List.cons_append, List.cons_append,
        ofPlaced_reference_tokens (c := k.code) rfl, href, heq]
      simp only [List.cons_append, List.length_cons, Nat.add_comm, Nat.add_left_comm]
  | @subgroup is ts inner g hspell _ ihInner ih =>
    cases hn with
    | subgroup hi hn =>
      obtain ⟨as, heqInner, hnestedInner, _⟩ :=
        ihInner hi (position + 1) (free + 1) (.groupClose :: (ts ++ rest))
      obtain ⟨qs, heq, hnested, hlines⟩ := ih hn (position + 1 + is.length + 1) free rest
      refine ⟨.opening position true :: (as ++ .closing (position + 1 + is.length) :: qs), ?_,
        .pair _ _ hnestedInner hnested, fun us gs hus => ?_⟩
      · rw [List.cons_append, List.append_assoc, List.cons_append,
          ofPlaced_pair hspell.balanced _ heqInner, heq]
        simp [Nat.add_comm, Nat.add_left_comm]
      · rw [List.cons_append, List.append_assoc, List.cons_append]
        exact .pair _ _ hnestedInner (hlines us gs hus)

end RadioText
