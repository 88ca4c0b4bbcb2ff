import Mathlib
import RadioText.Proofs.Style.Spelling

/-! Backslashes counted. Reading keeps their number from the tokens to the literals, so a style has
as many in its literals as there are backslashes in it that no control character follows. Writing a
group never makes more of these than its literals have, and it makes fewer as soon as a literal
ends in a backslash that is not the last character written. -/
namespace RadioText
open Token Piece Matching Grammar

def Token.slashes (t : Token) : Nat := t.literal.count '\\'

def Piece.slashes : Piece → Nat
  | .text t => t.count '\\'
  | _ => 0

def Visit.slashes : Visit → Nat
  | .literal t => t.count '\\'
  | _ => 0

def Group.slashes (g : Group) : Nat := (g.visits.map Visit.slashes).sum

def loneSlashes (s : Text) : Nat := ((ofStyle s).map Token.slashes).sum

namespace Group

@[simp] theorem slashes_nil : slashes [] = 0 := by
  simp [slashes]

@[simp] theorem slashes_literal (t : Text) (g : Group) :
    slashes (.literal t :: g) = t.count '\\' + slashes g := by
  simp [slashes, Visit.slashes]

@[simp] theorem slashes_field (k : Field) (g : Group) :
    slashes (.field k :: g) = slashes g := by
  simp [slashes, Visit.slashes]

@[simp] theorem slashes_subgroup (inner g : Group) :
    slashes (.subgroup inner :: g) = slashes inner + slashes g := by
  simp [slashes, Visit.slashes]

theorem slashes_withText (t : Text) (g : Group) :
    (g.withText t).slashes = t.count '\\' + g.slashes := by
  by_cases ht : t = []
  · simp [ht]
  match g with
  | .literal u :: g => simp [withText_literal ht, Nat.add_assoc]
  | [] | .field _ :: _ | .subgroup _ :: _ => simp [withText, ht]

end Group

/-! ### Reading keeps them -/

theorem Piece.Nested.slashes {ps : List Piece} {g : Group} (h : Nested ps g) :
    g.slashes = (ps.map Piece.slashes).sum := by
  induction h with
  | nil => simp
  | text t _ ih => simp [Group.slashes_withText, Piece.slashes, ih]
  | field k _ ih => simp [Piece.slashes, ih]
  | pipe _ ih => simp [Group.slashes_withText, Piece.slashes, ih]
  | pair i j _ _ ihInner ih => simp [Piece.slashes, ihInner, ih]

theorem Piece.Lines.slashes {ps : List Piece} {g : Group} {gs : List Group} (h : Lines ps g gs) :
    ((g :: gs).map Group.slashes).sum = (ps.map Piece.slashes).sum := by
  induction h with
  | nil => simp
  | text t _ ih =>
    rw [List.map_cons, List.sum_cons] at ih ⊢
    rw [Group.slashes_withText, Nat.add_assoc, ih]
    simp [Piece.slashes]
  | field k _ ih => simpa [Piece.slashes] using ih
  | pipe _ ih => simpa [Piece.slashes] using ih
  | pair i j hi _ ih =>
    rw [List.map_cons, List.sum_cons] at ih ⊢
    rw [Group.slashes_subgroup, Nat.add_assoc, ih]
    simp [Piece.slashes, hi.slashes]
  | opened i _ ih => simpa [Piece.slashes] using ih

/-- The letter of a field is no backslash. -/
theorem slashes_reference (c : Char) : (reference c).slashes = List.count '\\' [c] := by
  rw [reference]
  cases hk : Field.ofCode? c with
  | none => simp [Piece.slashes, List.count_cons]
  | some k =>
    have hc : k.code = c := by simpa using List.find?_some hk
    rw [← hc]
    cases k <;> rfl

theorem slashes_single (position : Nat) (paired : Bool) (t : Token) :
    (single position paired t).slashes = t.slashes := by
  cases t with
  | groupClose => cases paired <;> rfl
  | _ => rfl

theorem slashes_letter {x : Token} {c : Char} (h : Piece.letter? x = some c) :
    x.slashes = List.count '\\' [c] := by
  match x with
  | .text [d] | .escaped d =>
    cases h
    rfl

theorem slashes_ofPlaced (l : List Placed) :
    ((ofPlaced l).map Piece.slashes).sum = (l.map (·.1.1.slashes)).sum := by
  induction l using placed_induction with
  | nil => rfl
  | single t position paired l h ih =>
    rw [ofPlaced_single position paired h, List.map_cons, List.sum_cons, slashes_single, ih]
    rfl
  | reference position paired x y l c h ih =>
    obtain ⟨hx, hy⟩ := letterAhead?_eq_some h
    rw [ofPlaced_reference position paired h, List.map_cons, List.sum_cons, slashes_reference, ih,
      ← slashes_letter hx]
    simp [hy, Token.slashes, Token.literal]

theorem slashes_placed (position free : Nat) (ts : List Token) :
    (placed position free ts).map (·.1.1.slashes) = ts.map Token.slashes := by
  induction ts generalizing position free with
  | nil => rfl
  | cons t ts ih =>
    obtain ⟨paired, free', h⟩ := placed_cons position free t ts
    rw [h, List.map_cons, ih, List.map_cons]

theorem slashes_keptLines (gs : List Group) :
    ((keptLines gs).map Group.slashes).sum = (gs.map Group.slashes).sum := by
  induction gs with
  | nil => rfl
  | cons g gs ih =>
    rw [keptLines_cons, List.map_append, List.sum_append, ih, List.map_cons, List.sum_cons]
    cases g <;> simp [keptLines]

/-- The literals read from a style have as many backslashes as the style has lone ones. -/
theorem slashes_ofStyle (s : Text) :
    ((Template.ofStyle s).groups.map Group.slashes).sum = loneSlashes s := by
  obtain ⟨line, lines, hl⟩ := exists_lines_ofTokens (ofStyle s)
  rw [Template.ofStyle, groupsOfTokens_eq hl, slashes_keptLines, hl.slashes, ofTokens_eq,
    slashes_ofPlaced, slashes_placed, loneSlashes]

/-! ### Writing may lose them -/

theorem loneSlashes_control {c : Char} (hc : (control? c).isSome = true) (s : Text) :
    loneSlashes (c :: s) = loneSlashes s := by
  obtain ⟨t, ht⟩ := Option.isSome_iff_exists.1 hc
  have hslash : t.slashes = 0 := by
    unfold control? at ht
    split at ht <;> cases ht <;> rfl
  simp [loneSlashes, ofStyle_cons, push_control ht, hslash]

theorem slashes_structural {t : Token} {c : Char} (h : t.controlChar? = some c) :
    t.slashes = 0 ∧ (Token.escaped c).slashes = 0 := by
  cases t <;> cases h <;> exact ⟨rfl, rfl⟩

theorem loneSlashes_backslash (s : Text) :
    loneSlashes ('\\' :: s) = loneSlashes s + if beginsControl s then 0 else 1 := by
  rw [loneSlashes, ofStyle_cons, loneSlashes]
  cases hs : beginsControl s with
  | true =>
    obtain ⟨c, t, ts, heq, ht⟩ := ofStyle_of_beginsControl hs
    obtain ⟨hzero, hescaped⟩ := slashes_structural ht
    simp [heq, push_backslash_structural ht, hzero, hescaped]
  | false =>
    rcases ofStyle_of_not_beginsControl hs with rfl | ⟨t, ts, heq, ht⟩
    · rfl
    · simp [heq, push_backslash_plain ht, Token.slashes, Token.literal, Nat.add_comm]

theorem loneSlashes_char {c : Char} (hc : control? c = none) (hb : c ≠ '\\') (s : Text) :
    loneSlashes (c :: s) = loneSlashes s := by
  rw [loneSlashes, ofStyle_cons, loneSlashes]
  match ofStyle s with
  | .text r :: ts =>
    simp [push_text hc hb, Token.slashes, Token.literal, hb]
  | [] | .fieldOpen :: _ | .fieldClose :: _ | .groupOpen :: _ | .groupClose :: _ | .pipe :: _
  | .escaped _ :: _ | .backslash :: _ =>
    rw [push_char hc hb (by simp)]
    simp [Token.slashes, Token.literal, hb]

theorem loneSlashes_spellLiteral (t rest : Text) :
    loneSlashes (spellLiteral t ++ rest) ≤ t.count '\\' + loneSlashes rest := by
  induction t with
  | nil => simp [spellLiteral]
  | cons c t ih =>
    cases hc : control? c with
    | some tok =>
      have hs : (control? c).isSome = true := by simp [hc]
      have hb : c ≠ '\\' := by
        rintro rfl
        cases hc
      rw [spellLiteral_control hc, List.cons_append, List.cons_append, loneSlashes_backslash,
        beginsControl, if_pos hs, loneSlashes_control hs, List.count_cons_of_ne hb]
      exact ih
    | none =>
      rw [spellLiteral_plain hc, List.cons_append]
      by_cases hb : c = '\\'
      · subst hb
        rw [loneSlashes_backslash, List.count_cons_self]
        split <;> omega
      · rw [loneSlashes_char hc hb, List.count_cons_of_ne hb]
        exact ih

/-- A literal that ends in a backslash loses it to a control character behind it. -/
theorem loneSlashes_spellLiteral_lt {t rest : Text} (ht : t.getLast? = some '\\')
    (hr : beginsControl rest = true) :
    loneSlashes (spellLiteral t ++ rest) < t.count '\\' + loneSlashes rest := by
  obtain ⟨t, rfl⟩ := List.getLast?_eq_some_iff.1 ht
  have hspell : spellLiteral (t ++ ['\\']) = spellLiteral t ++ ['\\'] := by
    simp [spellLiteral, control?]
  have hle := loneSlashes_spellLiteral t ('\\' :: rest)
  rw [loneSlashes_backslash, if_pos hr] at hle
  rw [hspell, List.append_assoc, List.count_append, List.singleton_append,
    List.count_singleton_self]
  omega

theorem loneSlashes_field (k : Field) (s : Text) :
    loneSlashes ('{' :: k.code :: '}' :: s) = loneSlashes s := by
  have hc : control? k.code = none ∧ k.code ≠ '\\' := by cases k <;> decide
  rw [loneSlashes_control rfl, loneSlashes_char hc.1 hc.2, loneSlashes_control rfl]

theorem loneSlashes_toStyle (g : Group) (after : Text) :
    loneSlashes (g.toStyle ++ after) ≤ g.slashes + loneSlashes after := by
  induction g using Group.induction generalizing after with
  | nil => simp
  | literal t g ih =>
    have hle := loneSlashes_spellLiteral t (g.toStyle ++ after)
    have hg := ih after
    rw [Group.toStyle_literal, List.append_assoc, Group.slashes_literal]
    omega
  | field k g ih =>
    rw [Group.toStyle_field, List.cons_append, List.cons_append, List.cons_append,
      loneSlashes_field, Group.slashes_field]
    exact ih after
  | subgroup inner g ihInner ih =>
    have hi := ihInner (']' :: (g.toStyle ++ after))
    have hg := ih after
    rw [loneSlashes_control rfl] at hi
    rw [Group.toStyle_subgroup, List.cons_append, loneSlashes_control rfl, List.append_assoc,
      List.cons_append, Group.slashes_subgroup]
    omega

theorem Group.BackslashLast.cons {s : Segment} {g : Group} {after : Text}
    (h : ∀ t, s.Holds t → t.getLast? = some '\\' → s = .literal t ∧ g = [] ∧ after = [])
    (hg : g.BackslashLast after) : BackslashLast (s :: g) after := by
  intro left s' right t hsplit ht hlast
  cases left with
  | nil =>
    obtain ⟨rfl, rfl⟩ := List.cons.inj hsplit
    exact h t ht hlast
  | cons _ left =>
    exact hg left s' right t (List.cons.inj hsplit).2 ht hlast

/-- A group that keeps its backslashes when it is written has none at the end of a literal but the
last character written. -/
theorem backslashLast_of_slashes {g : Group} (hn : g.Normal) {after : Text}
    (ha : after = [] ∨ beginsControl after = true)
    (h : loneSlashes (g.toStyle ++ after) = g.slashes + loneSlashes after) :
    g.BackslashLast after := by
  induction hn generalizing after with
  | nil => simp [Group.BackslashLast]
  | @literal t g ht hg hn ih =>
    -- Neither part has more than its share, so both have exactly that.
    rw [Group.toStyle_literal, List.append_assoc, Group.slashes_literal] at h
    have hle := loneSlashes_spellLiteral t (g.toStyle ++ after)
    have hrest := loneSlashes_toStyle g after
    refine .cons (fun u hu hlast => ?_) (ih ha (by omega))
    cases hu
    have hnot : ¬beginsControl (g.toStyle ++ after) = true := by
      intro hr
      have hlt := loneSlashes_spellLiteral_lt hlast hr
      omega
    obtain rfl : g = [] := (Group.beginsControl_toStyle hg after).resolve_right hnot
    exact ⟨rfl, rfl, ha.resolve_right (by simpa using hnot)⟩
  | @field k g hn ih =>
    rw [Group.toStyle_field, List.cons_append, List.cons_append, List.cons_append,
      loneSlashes_field, Group.slashes_field] at h
    refine .cons (fun u hu => ?_) (ih ha h)
    cases hu
  | @subgroup inner g hi hn ihInner ih =>
    rw [Group.toStyle_subgroup, List.cons_append, loneSlashes_control rfl, List.append_assoc,
      List.cons_append, Group.slashes_subgroup] at h
    have hle := loneSlashes_toStyle inner (']' :: (g.toStyle ++ after))
    have hrest := loneSlashes_toStyle g after
    have hclose : loneSlashes (']' :: (g.toStyle ++ after)) = loneSlashes (g.toStyle ++ after) :=
      loneSlashes_control rfl _
    refine .cons (fun u hu hlast => ?_) (ih ha (by omega))
    cases hu with
    | @subgroup s _ hs hu =>
      obtain ⟨left, right, rfl⟩ := List.append_of_mem hs
      have hinner : Group.BackslashLast (left ++ s :: right) (']' :: (g.toStyle ++ after)) :=
        ihInner (.inr rfl) (by omega)
      cases (hinner left s right u rfl hu hlast).2.2

end RadioText
