import RadioText.Proofs.Style.Tokens

/-! The tokens of a style and their places. Read from the front, longest token first, a style gives
the same tokens as read from its end; their spellings stand in it one behind the other, and nothing
of the style is left over between them. Places are byte offsets, so that a place inside a character
is no place at which a piece of the style could begin or end. -/
namespace RadioText

namespace Text

theorem byteCount_cons (c : Char) (t : Text) : byteCount (c :: t) = c.utf8Size + byteCount t := rfl

theorem byteCount_append (t u : Text) : byteCount (t ++ u) = byteCount t + byteCount u := by
  induction t with
  | nil => simp [byteCount]
  | cons c t ih => rw [List.cons_append, byteCount_cons, byteCount_cons, ih, Nat.add_assoc]

theorem byteCount_pos {t : Text} (h : t ≠ []) : 0 < byteCount t := by
  obtain ⟨c, t, rfl⟩ := List.exists_cons_of_ne_nil h
  rw [byteCount_cons]
  exact Nat.lt_add_right _ c.utf8Size_pos

theorem exists_width_add (c : Char) (n : Nat) :
    ∃ k, c.utf8Size + n = k + 1 ∧ c.utf8Size ≤ k + 1 ∧ k + 1 - c.utf8Size = n := by
  have hpos := c.utf8Size_pos
  exact ⟨c.utf8Size + n - 1, by omega, by omega, by omega⟩

theorem dropBytes?_cons (c : Char) (n : Nat) (t : Text) :
    dropBytes? (c.utf8Size + n) (c :: t) = dropBytes? n t := by
  obtain ⟨k, hk, hle, hrest⟩ := exists_width_add c n
  rw [hk, dropBytes?, if_pos hle, hrest]

theorem takeBytes?_cons (c : Char) (n : Nat) (t : Text) :
    takeBytes? (c.utf8Size + n) (c :: t) = (takeBytes? n t).map (c :: ·) := by
  obtain ⟨k, hk, hle, hrest⟩ := exists_width_add c n
  rw [hk, takeBytes?, if_pos hle, hrest]

theorem dropBytes?_byteCount (t u : Text) : dropBytes? (byteCount t) (t ++ u) = some u := by
  induction t with
  | nil => cases u <;> rfl
  | cons c t ih => rw [List.cons_append, byteCount_cons, dropBytes?_cons, ih]

theorem takeBytes?_byteCount (t u : Text) : takeBytes? (byteCount t) (t ++ u) = some t := by
  induction t with
  | nil => cases u <;> rfl
  | cons c t ih => rw [List.cons_append, byteCount_cons, takeBytes?_cons, ih, Option.map_some]

def between? (t : Text) (first past : Nat) : Option Text :=
  (t.dropBytes? first).bind (takeBytes? (past - first))

theorem between?_append (before t after : Text) :
    between? (before ++ (t ++ after)) before.byteCount (before.byteCount + t.byteCount) =
      some t := by
  rw [between?, dropBytes?_byteCount, Option.bind_some, Nat.add_sub_cancel_left,
    takeBytes?_byteCount]

end Text

namespace Token

theorem spelling_lexeme (c : Char) (s : Text) :
    (lexeme c s).spelling ++ (lexeme c s).rest = c :: s := by
  unfold lexeme
  split
  · rfl
  split
  · split
    · rfl
    · split <;> rfl
  · exact congrArg (c :: ·) List.takeWhile_append_dropWhile

/-- The longest token that a style begins with is its first token. -/
theorem ofStyle_lexeme (c : Char) (s : Text) :
    ofStyle (c :: s) = (lexeme c s).token :: ofStyle (lexeme c s).rest := by
  cases hc : control? c with
  | some t => simp [lexeme, hc, ofStyle_cons, push_control hc]
  | none =>
    by_cases hb : c = '\\'
    · subst hb
      cases s with
      | nil => rfl
      | cons d s =>
        cases hd : control? d with
        | some t =>
          rw [ofStyle_cons, ofStyle_cons, push_control hd,
            push_backslash_structural (controlChar?_of_control? hd)]
          simp [lexeme, hc, hd]
        | none =>
          have hplain : beginsControl (d :: s) = false := by simp [beginsControl, hd]
          obtain h | ⟨t, ts, hs, ht⟩ := ofStyle_of_not_beginsControl hplain
          · cases h
          · rw [ofStyle_cons, hs, push_backslash_plain ht]
            simp [lexeme, hc, hd, hs]
    · have hrun : ∀ d ∈ c :: s.takeWhile isPlain, isPlain d = true :=
        List.forall_mem_cons.2 ⟨(isPlain_iff c).2 ⟨hc, hb⟩, List.all_eq_true.1 List.all_takeWhile⟩
      have hnext : ∀ d ∈ (s.dropWhile isPlain).head?, isPlain d = false := by
        intro d hd
        have hnot := List.head?_dropWhile_not isPlain s
        rw [hd] at hnot
        simpa using hnot
      have htokens := ofStyle_plain (by simp) hrun (ofStyle_ne_text hnext)
      rw [List.cons_append, List.takeWhile_append_dropWhile] at htokens
      simpa [lexeme, hc, hb] using htokens

theorem display_lexeme (c : Char) (s : Text) :
    (lexeme c s).token.display = (lexeme c s).spelling := by
  -- Both are what the first token adds to the tokens behind it.
  have h := flatMap_display_ofStyle (c :: s)
  rw [ofStyle_lexeme, List.flatMap_cons, flatMap_display_ofStyle, ← spelling_lexeme c s] at h
  exact List.append_cancel_right h

theorem spelling_lexeme_ne_nil (c : Char) (s : Text) : (lexeme c s).spelling ≠ [] := by
  intro h
  have hlength := length_rest_lexeme c s
  have heq := spelling_lexeme c s
  rw [h, List.nil_append] at heq
  rw [heq, List.length_cons] at hlength
  omega

theorem map_token_spansFrom (start : Nat) (s : Text) :
    (spansFrom start s).map Span.token = ofStyle s := by
  induction start, s using spansFrom.induct with
  | case1 start =>
    rw [spansFrom]
    rfl
  | case2 start c s next past ih =>
    rw [spansFrom, List.map_cons, ih, ofStyle_lexeme]

/-- Spans that cover a style from `start` to its end, each where the one before it ends. None is
empty, and at its place stands the token as a style spells it. -/
def Tiles (style : Text) : Nat → List Span → Prop
  | start, [] => start = style.byteCount
  | start, p :: ps =>
    p.first = start ∧ p.first < p.past ∧ style.between? p.first p.past = some p.token.display ∧
      Tiles style p.past ps

theorem tiles_spansFrom (done rest : Text) :
    Tiles (done ++ rest) done.byteCount (spansFrom done.byteCount rest) := by
  match rest with
  | [] =>
    rw [spansFrom, List.append_nil]
    exact rfl
  | c :: rest =>
    have hsplit : done ++ c :: rest =
        done ++ ((lexeme c rest).spelling ++ (lexeme c rest).rest) := by
      rw [spelling_lexeme]
    have hlater := tiles_spansFrom (done ++ (lexeme c rest).spelling) (lexeme c rest).rest
    rw [List.append_assoc, ← hsplit, Text.byteCount_append] at hlater
    rw [spansFrom]
    refine ⟨rfl, Nat.lt_add_of_pos_right (Text.byteCount_pos (spelling_lexeme_ne_nil c rest)), ?_,
      hlater⟩
    rw [hsplit, display_lexeme, Text.between?_append]
termination_by rest.length
decreasing_by exact Nat.lt_succ_of_le (length_rest_lexeme c rest)

/-- The tokens of a style lose nothing of it: their spans cover it from its first byte to its last,
at each span stands the token as it is written, and all tokens written one after the other are the
style. -/
theorem spans_tile (s : Text) :
    Tiles s 0 (spans s) ∧ (spans s = [] ↔ s = []) ∧ (spans s).map Span.token = ofStyle s ∧
      ((spans s).map Span.token).flatMap display = s := by
  have htokens := map_token_spansFrom 0 s
  refine ⟨tiles_spansFrom [] s, ?_, htokens, ?_⟩
  · cases s with
    | nil => simp [spans, spansFrom]
    | cons c s => simp [spans, spansFrom]
  · rw [spans, htokens, flatMap_display_ofStyle]

end Token
end RadioText
