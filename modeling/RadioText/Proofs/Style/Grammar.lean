import RadioText.Proofs.Style.Lines
import RadioText.Proofs.Style.Matching

/-! The grammar of styles, by recursion on the tokens and without a stack. Brackets are matched
first, over the whole list; the list is cut at the pipes outside every pair; what stands between
two cuts is read from its front. `groupsOfTokens_eq_groups`: the parser reads every list of tokens,
also one that no style has, as the grammar says. -/
namespace RadioText.Grammar
open Matching Piece

def oneChar? : Token → Option Char
  | .text [c] => some c
  | .escaped c => some c
  | _ => none

def letter? : List (Token × Nat) → Option Char
  | (x, _) :: (close, _) :: _ => if close = .fieldClose then oneChar? x else none
  | _ => none

def withReference (c : Char) (g : Group) : Group :=
  match Field.ofCode? c with
  | some k => .field k :: g
  | none => g.withText ['{', c, '}']

/-- The group that tokens stand for, each with its position, where `ps` are the matched brackets.
A matched bracket is a subgroup up to its partner, an unmatched opening bracket is one up to the
end; field references are fields; all else is text. -/
def read (ps : List (Nat × Nat)) : List (Token × Nat) → Group
  | [] => []
  | (.groupOpen, n) :: ts =>
    match ps.lookup n with
    | some m =>
      .subgroup (read ps (ts.takeWhile (·.2 ≠ m))) :: read ps (ts.dropWhile (·.2 ≠ m)).tail
    | none => [.subgroup (read ps ts)]
  | (.fieldOpen, _) :: ts =>
    match letter? ts with
    | some c => withReference c (read ps (ts.drop 2))
    | none => (read ps ts).withText Token.fieldOpen.literal
  | (t, _) :: ts => (read ps ts).withText t.literal
termination_by ts => ts.length
decreasing_by
  · have := (List.takeWhile_sublist (fun t : Token × Nat => decide (t.2 ≠ m)) (l := ts)).length_le
    simp only [List.length_cons]
    omega
  · have := (List.dropWhile_sublist (fun t : Token × Nat => decide (t.2 ≠ m)) (l := ts)).length_le
    simp only [List.length_tail, List.length_cons]
    omega
  all_goals
    simp only [List.length_cons, List.length_drop]
    omega

def endsLine (ps : List (Nat × Nat)) (t : Token × Nat) : Bool := t.1 = .pipe && !inside ps t.2

def groups (ts : List Token) : List Group :=
  ((ts.zipIdx.splitOnP (endsLine (pairs ts))).map (read (pairs ts))).filter (!·.isEmpty)

theorem read_token (ps : List (Nat × Nat)) {t : Token} (ho : t ≠ .groupOpen) (hf : t ≠ .fieldOpen)
    (n : Nat) (ts : List (Token × Nat)) :
    read ps ((t, n) :: ts) = (read ps ts).withText t.literal := by
  rw [read]
  · exact ho
  · exact hf

theorem read_brace (ps : List (Nat × Nat)) (n : Nat) {ts : List (Token × Nat)}
    (h : letter? ts = none) :
    read ps ((.fieldOpen, n) :: ts) = (read ps ts).withText Token.fieldOpen.literal := by
  rw [read, h]

theorem read_reference (ps : List (Nat × Nat)) (n : Nat) {x y : Token × Nat} {c : Char}
    {ts : List (Token × Nat)} (h : letter? (x :: y :: ts) = some c) :
    read ps ((.fieldOpen, n) :: x :: y :: ts) = withReference c (read ps ts) := by
  rw [read, h]
  rfl

theorem read_opened {ps : List (Nat × Nat)} {n : Nat} (h : ps.lookup n = none)
    (ts : List (Token × Nat)) : read ps ((.groupOpen, n) :: ts) = [.subgroup (read ps ts)] := by
  rw [read, h]

theorem read_pair {ps : List (Nat × Nat)} {n m : Nat} (h : ps.lookup n = some m)
    {inner : List (Token × Nat)} (hi : ∀ t ∈ inner, t.2 ≠ m) (t : Token)
    (ts : List (Token × Nat)) :
    read ps ((.groupOpen, n) :: (inner ++ (t, m) :: ts)) =
      .subgroup (read ps inner) :: read ps ts := by
  have hin : ∀ t ∈ inner, decide (t.2 ≠ m) = true := fun t ht => decide_eq_true (hi t ht)
  rw [read, h]
  simp only
  rw [List.takeWhile_append_of_pos hin, List.dropWhile_append_of_pos hin]
  simp

theorem letter?_eq_some {ts : List Token} {n : Nat} {c : Char}
    (h : letter? (ts.zipIdx n) = some c) :
    ∃ x rest, ts = x :: .fieldClose :: rest ∧ oneChar? x = some c := by
  match ts with
  | [] | [_] => simp [letter?] at h
  | x :: y :: rest =>
    rw [List.zipIdx_cons, List.zipIdx_cons, letter?] at h
    by_cases hy : y = .fieldClose
    · rw [if_pos hy] at h
      exact ⟨x, rest, by rw [hy], h⟩
    · simp [hy] at h

theorem oneChar?_ne_bracket {x : Token} {c : Char} (h : oneChar? x = some c) :
    x ≠ .groupOpen ∧ x ≠ .groupClose ∧ x ≠ .pipe := by
  refine ⟨?_, ?_, ?_⟩ <;> rintro rfl <;> simp [oneChar?] at h

/-- The letter of a reference is never beyond a closing bracket. -/
theorem letter?_append_close (inner rest : List Token) (n : Nat) :
    letter? ((inner ++ .groupClose :: rest).zipIdx n) = letter? (inner.zipIdx n) := by
  match inner with
  | [] => cases rest <;> simp [letter?, oneChar?]
  | [_] => simp [letter?]
  | _ :: _ :: _ => rfl

/-- The letter of a reference is never beyond the end of a line. -/
theorem letter?_of_splitOnP {ps : List (Nat × Nat)} {ts line : List (Token × Nat)}
    {lines : List (List (Token × Nat))} (h : ts.splitOnP (endsLine ps) = line :: lines) :
    letter? line = letter? ts := by
  have hpipe : ∀ t : Token × Nat, endsLine ps t = true → t.1 = .pipe := by
    intro t ht
    simp only [endsLine, Bool.and_eq_true, decide_eq_true_eq] at ht
    exact ht.1
  match ts with
  | [] =>
    obtain ⟨rfl, _⟩ := List.cons.inj h
    rfl
  | x :: ts =>
    rw [List.splitOnP_cons_eq_if_modifyHead] at h
    by_cases hx : endsLine ps x
    · rw [if_pos hx] at h
      obtain ⟨rfl, _⟩ := List.cons.inj h
      match ts with
      | [] => rfl
      | y :: ts => simp [letter?, oneChar?, hpipe x hx]
    rw [if_neg hx] at h
    match ts with
    | [] =>
      obtain ⟨rfl, _⟩ := List.cons.inj h
      rfl
    | y :: ts =>
      rw [List.splitOnP_cons_eq_if_modifyHead] at h
      by_cases hy : endsLine ps y
      · rw [if_pos hy] at h
        obtain ⟨rfl, _⟩ := List.cons.inj h
        simp [letter?, hpipe y hy]
      · rw [if_neg hy] at h
        obtain ⟨rest, others, hr⟩ := List.exists_cons_of_ne_nil
          (List.splitOnP_ne_nil (endsLine ps) ts)
        rw [hr] at h
        obtain ⟨rfl, _⟩ := List.cons.inj h
        rfl

theorem placed_cons (position free : Nat) (t : Token) (ts : List Token) :
    ∃ paired free', placed position free (t :: ts) =
      ((t, position), paired) :: placed (position + 1) free' ts := by
  cases t <;> exact ⟨_, _, rfl⟩

theorem letterAhead?_placed (position free : Nat) (ts : List Token) :
    Piece.letterAhead? (placed position free ts) = letter? (ts.zipIdx position) := by
  match ts with
  | [] => rfl
  | [x] => cases x <;> rfl
  | x :: y :: ts =>
    obtain ⟨_, free', hx⟩ := placed_cons position free x (y :: ts)
    obtain ⟨_, _, hy⟩ := placed_cons (position + 1) free' y ts
    rw [hx, hy, List.zipIdx_cons, List.zipIdx_cons, letter?]
    cases y with
    | fieldClose => rfl
    | _ => rfl

theorem single_text {t : Token} (ho : t ≠ .groupOpen) (hc : t ≠ .groupClose) (hp : t ≠ .pipe)
    (position : Nat) (paired : Bool) : Piece.single position paired t = .text t.literal := by
  cases t <;> first | rfl | contradiction

theorem nested_reference {qs : List Piece} {g : Group} (h : Nested qs g) (c : Char) :
    Nested (Piece.reference c :: qs) (withReference c g) := by
  rw [Piece.reference, withReference]
  cases Field.ofCode? c with
  | none => exact h.text _
  | some k => exact h.field k

theorem lines_reference {qs : List Piece} {g : Group} {gs : List Group} (h : Lines qs g gs)
    (c : Char) : Lines (Piece.reference c :: qs) (withReference c g) gs := by
  rw [Piece.reference, withReference]
  cases Field.ofCode? c with
  | none => exact h.text _
  | some k => exact h.field k

/-- The roles of a reference and of what follows it. -/
theorem ofPlaced_reference_tokens {x : Token} {c : Char} (hx : oneChar? x = some c)
    (position free : Nat) (ts : List Token) :
    Piece.ofPlaced (placed position free (.fieldOpen :: x :: .fieldClose :: ts)) =
      Piece.reference c :: Piece.ofPlaced (placed (position + 3) free ts) := by
  obtain ⟨ho, hc, _⟩ := oneChar?_ne_bracket hx
  rw [placed_token (by simp) (by simp), placed_token ho hc, placed_token (by simp) (by simp)]
  apply Piece.ofPlaced_reference
  cases x <;> exact hx

/-- The roles of a bracket with a partner, of what stands between the two, and of what follows. -/
theorem ofPlaced_pair {inner : List Token} (hb : Balanced inner) {position free : Nat}
    {qs : List Piece} (ts : List Token)
    (hq : Piece.ofPlaced (placed (position + 1) (free + 1) (inner ++ .groupClose :: ts)) =
      qs ++ Piece.ofPlaced (placed (position + 1 + inner.length) (free + 1) (.groupClose :: ts))) :
    Piece.ofPlaced (placed position free (.groupOpen :: (inner ++ .groupClose :: ts))) =
      .opening position true :: (qs ++ .closing (position + 1 + inner.length) ::
        Piece.ofPlaced (placed (position + 1 + inner.length + 1) free ts)) := by
  have hfree : 0 < freeClosers (inner ++ .groupClose :: ts) := by
    rw [hb.freeClosers_append, freeClosers_close]
    exact Nat.succ_pos _
  rw [placed, Piece.ofPlaced_single _ _ (by simp), hq, placed,
    Piece.ofPlaced_single _ _ (by simp), decide_eq_true hfree]
  simp [Piece.single]

theorem positions_ne (ts : List Token) (n : Nat) :
    ∀ t ∈ ts.zipIdx n, t.2 ≠ n + ts.length := by
  intro t ht
  exact Nat.ne_of_lt (List.snd_lt_add_of_mem_zipIdx ht)

/-- What stands before a bracket's partner is read between the two as the grammar reads it. -/
theorem exists_nested {ps : List (Nat × Nat)} {inner : List Token} (hb : Balanced inner)
    {position : Nat} {free : List Nat} {rest : List Token}
    (h : Continues ps position free (inner ++ .groupClose :: rest)) :
    ∃ qs, Nested qs (read ps (inner.zipIdx position)) ∧
      Piece.ofPlaced (placed position free.length (inner ++ .groupClose :: rest)) =
        qs ++ Piece.ofPlaced
          (placed (position + inner.length) free.length (.groupClose :: rest)) := by
  cases hb with
  | nil => exact ⟨[], by simpa [read] using Nested.nil, rfl⟩
  | @token t ts ho hc hts =>
    have hstep := h.token ho hc
    cases hl : if t = .fieldOpen then letter? (ts.zipIdx (position + 1)) else none with
    | some c =>
      obtain ⟨rfl, hletter⟩ := Option.ite_none_right_eq_some.1 hl
      obtain ⟨x, ts, rfl, hx⟩ := letter?_eq_some hletter
      obtain ⟨hxo, hxc, _⟩ := oneChar?_ne_bracket hx
      obtain ⟨qs, hq, heq⟩ := exists_nested ((hts.tail hxo).tail (by simp))
        ((hstep.token hxo hxc).token (by simp) (by simp))
      refine ⟨Piece.reference c :: qs, ?_, ?_⟩
      · rw [List.zipIdx_cons, List.zipIdx_cons, List.zipIdx_cons, read_reference ps position hletter]
        exact nested_reference hq c
      · rw [List.cons_append, List.cons_append, List.cons_append, ofPlaced_reference_tokens hx, heq,
          List.cons_append]
        simp only [List.length_cons, Nat.add_comm, Nat.add_left_comm]
    | none =>
      obtain ⟨qs, hq, heq⟩ := exists_nested hts hstep
      have hahead : t = .fieldOpen → Piece.letterAhead?
          (placed (position + 1) free.length (ts ++ .groupClose :: rest)) = none := by
        intro ht
        rw [letterAhead?_placed, letter?_append_close]
        simpa [ht] using hl
      refine ⟨Piece.single position false t :: qs, ?_, ?_⟩
      · rw [List.zipIdx_cons]
        by_cases hf : t = .fieldOpen
        · subst hf
          rw [read_brace ps position hl]
          exact hq.text _
        rw [read_token ps ho hf]
        by_cases hp : t = .pipe
        · subst hp
          exact hq.pipe
        · rw [single_text ho hc hp]
          exact hq.text _
      · rw [List.cons_append, placed_token ho hc, ofPlaced_single _ _ hahead, heq, List.cons_append,
          List.length_cons, Nat.add_right_comm, Nat.add_assoc]
  | @pair a b ha hb =>
    rw [List.cons_append, List.append_assoc, List.cons_append] at h ⊢
    obtain ⟨as, has, heqa⟩ := exists_nested ha h.opened
    obtain ⟨bs, hbs, heqb⟩ := exists_nested hb (h.pair ha)
    refine ⟨.opening position true :: (as ++ .closing (position + 1 + a.length) :: bs), ?_, ?_⟩
    · rw [List.zipIdx_cons, List.zipIdx_append, List.zipIdx_cons,
        read_pair (Continues.lookup_pair ha h) (positions_ne a (position + 1))]
      exact Nested.pair _ _ has hbs
    · rw [ofPlaced_pair ha _ heqa, heqb]
      simp [Nat.add_comm, Nat.add_left_comm]
termination_by inner.length

/-- Tokens that end no line belong to the line of what follows them. -/
theorem splitOnP_append {p : Token × Nat → Bool} (first : List (Token × Nat))
    {ts line : List (Token × Nat)} {lines : List (List (Token × Nat))}
    (hf : ∀ t ∈ first, p t = false)
    (h : ts.splitOnP p = line :: lines) : (first ++ ts).splitOnP p = (first ++ line) :: lines := by
  induction first with
  | nil => exact h
  | cons t first ih =>
    rw [List.cons_append, List.splitOnP_cons_eq_if_modifyHead, hf t (by simp),
      ih fun u hu => hf u (List.mem_cons_of_mem t hu)]
    rfl

theorem endsLine_inside {ps : List (Nat × Nat)} {a : Nat} {ts : List Token}
    (h : ps.lookup a = some (a + 1 + ts.length)) :
    ∀ t ∈ ts.zipIdx (a + 1), endsLine ps t = false := by
  intro t ht
  have hb := List.snd_lt_add_of_mem_zipIdx ht
  have ha := List.le_snd_of_mem_zipIdx ht
  simp [endsLine, inside_of_lookup h (by omega) hb]

/-- Lines that begin with a token which is text. -/
theorem exists_lines_text {ps : List (Nat × Nat)} {t : Token} (hp : t ≠ .pipe) {position : Nat}
    {ts : List Token} {line : List (Token × Nat)} {lines : List (List (Token × Nat))}
    {qs : List Piece} (hs : (ts.zipIdx (position + 1)).splitOnP (endsLine ps) = line :: lines)
    (hl : Lines qs (read ps line) (lines.map (read ps)))
    (hr : read ps ((t, position) :: line) = (read ps line).withText t.literal) :
    ∃ line lines, ((t :: ts).zipIdx position).splitOnP (endsLine ps) = line :: lines ∧
      Lines (.text t.literal :: qs) (read ps line) (lines.map (read ps)) := by
  refine ⟨(t, position) :: line, lines, ?_, ?_⟩
  · exact splitOnP_append [(t, position)] (by simp [endsLine, hp]) hs
  · rw [hr]
    exact hl.text _

/-- The lines of a list of tokens are those that its pieces stand for. -/
theorem exists_lines {ps : List (Nat × Nat)} (ts : List Token) {position : Nat} {free : List Nat}
    (h : Continues ps position free ts) (hf : free = [] ∨ freeClosers ts = 0) :
    ∃ line lines, (ts.zipIdx position).splitOnP (endsLine ps) = line :: lines ∧
      Lines (ofPlaced (placed position free.length ts)) (read ps line) (lines.map (read ps)) := by
  match ts with
  | [] =>
    refine ⟨[], [], rfl, ?_⟩
    rw [read]
    exact Lines.nil
  | .groupOpen :: ts =>
    by_cases hopen : freeClosers ts = 0
    · have hnone := h.lookup_opened hopen
      obtain ⟨line, lines, hs, hl⟩ := exists_lines ts h.opened (.inr hopen)
      refine ⟨(.groupOpen, position) :: line, lines,
        splitOnP_append [_] (by simp [endsLine]) hs, ?_⟩
      rw [read_opened hnone, placed, ofPlaced_single _ _ (by simp)]
      simpa [Piece.single, hopen] using hl.opened position
    · obtain ⟨inner, rest, hb, rfl⟩ :=
        exists_balanced_of_freeClosers_pos ts (Nat.pos_of_ne_zero hopen)
      have hpair := Continues.lookup_pair hb h
      rw [freeClosers_open, hb.freeClosers_append, freeClosers_close, Nat.add_sub_cancel] at hf
      obtain ⟨qs, hq, heq⟩ := exists_nested hb h.opened
      obtain ⟨line, lines, hs, hl⟩ := exists_lines rest (h.pair hb) hf
      refine ⟨(.groupOpen, position) :: (inner.zipIdx (position + 1) ++
        (.groupClose, position + 1 + inner.length) :: line), lines, ?_, ?_⟩
      · rw [List.zipIdx_cons, List.zipIdx_append, List.zipIdx_cons]
        refine splitOnP_append [_] (by simp [endsLine]) ?_
        refine splitOnP_append _ (endsLine_inside hpair) ?_
        exact splitOnP_append [_] (by simp [endsLine]) hs
      · rw [read_pair hpair (positions_ne inner (position + 1)), ofPlaced_pair hb _ heq]
        exact Lines.pair _ _ hq hl
  | .groupClose :: ts =>
    -- A closing bracket is left over, so no bracket before it is free.
    obtain rfl : free = [] := by simpa using hf
    obtain ⟨line, lines, hs, hl⟩ := exists_lines ts h.unmatched (.inl rfl)
    rw [List.length_nil, placed, ofPlaced_single _ _ (by simp)]
    exact exists_lines_text (by simp) hs hl (read_token ps (by simp) (by simp) _ _)
  | .pipe :: ts =>
    have hf' : free = [] ∨ freeClosers ts = 0 := hf
    obtain ⟨line, lines, hs, hl⟩ := exists_lines ts (h.token (by simp) (by simp)) hf'
    have hends : endsLine ps (.pipe, position) = true := by
      simp [endsLine, h.not_inside (by simp) (by simp) hf']
    refine ⟨[], line :: lines, ?_, ?_⟩
    · rw [List.zipIdx_cons, List.splitOnP_cons_eq_if_modifyHead, if_pos hends, hs]
    · rw [placed, ofPlaced_single _ _ (by simp), read]
      exact hl.pipe
      all_goals simp
  | .fieldOpen :: ts =>
    have hstep := h.token (by simp) (by simp)
    cases hletter : letter? (ts.zipIdx (position + 1)) with
    | none =>
      obtain ⟨line, lines, hs, hl⟩ := exists_lines ts hstep hf
      rw [placed, ofPlaced_single _ _ fun _ => by rw [letterAhead?_placed, hletter]]
      refine exists_lines_text (by simp) hs hl (read_brace ps _ ?_)
      rw [letter?_of_splitOnP hs, hletter]
      all_goals simp
    | some c =>
      obtain ⟨x, ts, rfl, hx⟩ := letter?_eq_some hletter
      obtain ⟨hxo, hxc, hxp⟩ := oneChar?_ne_bracket hx
      have hf' : free = [] ∨ freeClosers ts = 0 := by
        rwa [freeClosers_token (by simp) (by simp), freeClosers_token hxo hxc,
          freeClosers_token (by simp) (by simp)] at hf
      obtain ⟨line, lines, hs, hl⟩ :=
        exists_lines ts ((hstep.token hxo hxc).token (by simp) (by simp)) hf'
      refine ⟨(.fieldOpen, position) :: (x, position + 1) :: (.fieldClose, position + 2) :: line,
        lines, ?_, ?_⟩
      · refine splitOnP_append [_, _, _] ?_ hs
        simp [endsLine, hxp]
      · rw [read_reference ps position (by simpa [letter?] using hx), ofPlaced_reference_tokens hx]
        exact lines_reference hl c
  | .fieldClose :: ts | .backslash :: ts | .escaped _ :: ts | .text _ :: ts =>
    have hf' : free = [] ∨ freeClosers ts = 0 := hf
    obtain ⟨line, lines, hs, hl⟩ := exists_lines ts (h.token (by simp) (by simp)) hf'
    rw [placed_token (by simp) (by simp), ofPlaced_single _ _ (by simp)]
    exact exists_lines_text (by simp) hs hl (read_token ps (by simp) (by simp) _ _)
termination_by ts.length

theorem ofTokens_eq (ts : List Token) : ofTokens ts = ofPlaced (placed 0 0 ts) := by
  rw [ofTokens, placed_zero, ofPlaced]

theorem exists_lines_ofTokens (ts : List Token) : ∃ g gs, Lines (ofTokens ts) g gs := by
  obtain ⟨_, _, _, hl⟩ := exists_lines ts (continues_start ts) (.inl rfl)
  rw [ofTokens_eq]
  exact ⟨_, _, hl⟩

/-- The parser reads every list of tokens as the grammar does. -/
theorem groupsOfTokens_eq_groups (ts : List Token) : groupsOfTokens ts = groups ts := by
  obtain ⟨line, lines, hs, hl⟩ := exists_lines ts (continues_start ts) (.inl rfl)
  rw [groups, hs, List.map_cons]
  apply groupsOfTokens_eq
  rwa [ofTokens, placed_zero]

end RadioText.Grammar
