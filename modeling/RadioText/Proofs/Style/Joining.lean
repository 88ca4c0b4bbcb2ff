import RadioText.Proofs.Style.Canonical
import RadioText.Proofs.Style.Omission
import RadioText.Proofs.Style.Roles

/-! Two styles with a pipe between them. The tokens of both stand one behind the other, unless a
backslash takes the pipe. Brackets are matched over the whole list, but only an opening bracket left
over in the first part and a closing one left over in the second could find each other; without
such a pair the pipe ends a line, and both parts are read as they are alone. -/
namespace RadioText
open Token Matching Grammar Piece

namespace Token

theorem Canonical.append {xs ys : List Token} (hx : Canonical xs) (hy : Canonical ys)
    (h : ∀ x ∈ xs.getLast?, ∀ y ∈ ys.head?, x.Parted y) : Canonical (xs ++ ys) where
  spelled := List.forall_mem_append.2 ⟨hx.spelled, hy.spelled⟩
  parted := List.isChain_append.2 ⟨hx.parted, hy.parted, h⟩

/-- Styles are read apart if no token of the first joins one of the second. -/
theorem ofStyle_append {a b : Text}
    (h : ∀ x ∈ (ofStyle a).getLast?, ∀ y ∈ (ofStyle b).head?, x.Parted y) :
    ofStyle (a ++ b) = ofStyle a ++ ofStyle b := by
  have hcanonical := (canonical_ofStyle a).append (canonical_ofStyle b) h
  rw [← ofStyle_flatMap_display hcanonical, List.flatMap_append, flatMap_display_ofStyle,
    flatMap_display_ofStyle]

theorem ofStyle_append_pipe {a : Text} (ha : (ofStyle a).getLast? ≠ some .backslash) (b : Text) :
    ofStyle (a ++ '|' :: b) = ofStyle a ++ .pipe :: ofStyle b := by
  have hpipe : ofStyle ('|' :: b) = .pipe :: ofStyle b := by
    rw [ofStyle_cons, push_control rfl]
  rw [ofStyle_append, hpipe]
  rw [hpipe]
  rintro x hx _ ⟨⟩
  cases x with
  | backslash => exact absurd hx ha
  | _ => exact trivial

end Token

/-! ### Brackets left over -/

namespace Matching

def freeOpeners : List Token → Nat
  | [] => 0
  | .groupOpen :: ts => if freeClosers ts = 0 then freeOpeners ts + 1 else freeOpeners ts
  | _ :: ts => freeOpeners ts

theorem freeOpeners_token {t : Token} (ho : t ≠ .groupOpen) (ts : List Token) :
    freeOpeners (t :: ts) = freeOpeners ts := by
  cases t <;> first | rfl | contradiction

/-- The closing brackets left over behind take the opening brackets left over in front. -/
theorem freeClosers_append (xs ys : List Token) :
    freeClosers (xs ++ ys) = freeClosers xs + (freeClosers ys - freeOpeners xs) := by
  induction xs with
  | nil => simp [freeOpeners]
  | cons t xs ih =>
    rw [List.cons_append]
    cases t with
    | groupOpen =>
      rw [freeClosers_open, freeClosers_open, ih, freeOpeners]
      split <;> omega
    | groupClose =>
      rw [freeClosers_close, freeClosers_close, ih, freeOpeners_token (by simp)]
      omega
    | _ =>
      rw [freeClosers_token (by simp) (by simp), freeClosers_token (by simp) (by simp), ih,
        freeOpeners_token (by simp)]

def LeavesOpener (ts : List Token) : Prop :=
  ∃ n, ts[n]? = some .groupOpen ∧ (pairs ts).lookup n = none

def LeavesCloser (ts : List Token) : Prop :=
  ∃ n, ts[n]? = some .groupClose ∧ closes (pairs ts) n = false

theorem exists_mem_zipIdx_cons (u t : Token) (ts : List Token) (position : Nat) (P : Nat → Prop) :
    (∃ n, (u, n) ∈ (t :: ts).zipIdx position ∧ P n) ↔
      (t = u ∧ P position) ∨ ∃ n, (u, n) ∈ ts.zipIdx (position + 1) ∧ P n := by
  rw [List.zipIdx_cons]
  constructor
  · rintro ⟨n, hmem, hn⟩
    rcases List.mem_cons.1 hmem with heq | hmem
    · obtain ⟨rfl, rfl⟩ := Prod.mk.inj heq
      exact .inl ⟨rfl, hn⟩
    · exact .inr ⟨n, hmem, hn⟩
  · rintro (⟨rfl, hp⟩ | ⟨n, hmem, hn⟩)
    · exact ⟨position, List.mem_cons_self, hp⟩
    · exact ⟨n, List.mem_cons_of_mem _ hmem, hn⟩

namespace Continues

variable {ps : List (Nat × Nat)} {position : Nat} {free : List Nat} {ts : List Token}

/-- The matching leaves over as many brackets as the counts say: none is free only if none is
counted. -/
theorem exists_unmatched (h : Continues ps position free ts) (hfree : ∀ n ∈ free, n < position) :
    ((∃ n, (Token.groupOpen, n) ∈ ts.zipIdx position ∧ ps.lookup n = none) ↔
      0 < freeOpeners ts) ∧
    ((∃ n, (Token.groupClose, n) ∈ ts.zipIdx position ∧ closes ps n = false) ↔
      free.length < freeClosers ts) := by
  induction ts generalizing position free with
  | nil => simp [freeOpeners]
  | cons t ts ih =>
    have hnext : ∀ n ∈ free, n < position + 1 := fun n hn => Nat.lt_succ_of_lt (hfree n hn)
    rw [exists_mem_zipIdx_cons, exists_mem_zipIdx_cons]
    cases t with
    | groupOpen =>
      obtain ⟨hopen, hclose⟩ :=
        ih h.opened (List.forall_mem_cons.2 ⟨Nat.lt_succ_self position, hnext⟩)
      rw [hopen, hclose, freeClosers_open, freeOpeners, List.length_cons]
      refine ⟨?_, by simp; omega⟩
      by_cases hc : freeClosers ts = 0
      · simp [hc, h.lookup_opened hc]
      · obtain ⟨inner, rest, hb, rfl⟩ :=
          exists_balanced_of_freeClosers_pos ts (Nat.pos_of_ne_zero hc)
        simp [hc, h.lookup_pair hb]
    | groupClose =>
      rw [freeClosers_close, freeOpeners_token (by simp)]
      cases free with
      | nil =>
        obtain ⟨hopen, _⟩ := ih h.unmatched (by simp)
        rw [hopen]
        simp [closes_of_unmatched h]
      | cons nearest others =>
        obtain ⟨hn, _⟩ := List.forall_mem_cons.1 hfree
        obtain ⟨hopen, hclose⟩ := ih (h.matched hn) (List.forall_mem_cons.1 hnext).2
        have hmem := mem_of_balanced (.nil : Balanced []) h
        have hsome : closes ps position = true := closes_of_mem hmem
        rw [hopen, hclose]
        simp [hsome]
    | _ =>
      obtain ⟨hopen, hclose⟩ := ih (h.token (by simp) (by simp)) hnext
      rw [hopen, hclose, freeClosers_token (by simp) (by simp), freeOpeners_token (by simp)]
      simp

end Continues

theorem leavesOpener_iff (ts : List Token) : LeavesOpener ts ↔ 0 < freeOpeners ts := by
  rw [← ((continues_start ts).exists_unmatched (by simp)).1]
  simp [LeavesOpener, List.mem_zipIdx_iff_getElem?]

theorem leavesCloser_iff (ts : List Token) : LeavesCloser ts ↔ 0 < freeClosers ts := by
  rw [← List.length_nil, ← ((continues_start ts).exists_unmatched (by simp)).2]
  simp [LeavesCloser, List.mem_zipIdx_iff_getElem?]

/-- Tokens in front keep their flags, and those behind see as many free brackets as are left over. -/
theorem placed_append {xs ys : List Token} (h : freeOpeners xs = 0 ∨ freeClosers ys = 0)
    (position free : Nat) :
    placed position free (xs ++ ys) = placed position free xs ++
      placed (position + xs.length) (free - freeClosers xs + freeOpeners xs) ys := by
  induction xs generalizing position free with
  | nil => simp [placed, freeOpeners]
  | cons t xs ih =>
    rw [List.cons_append, List.length_cons]
    cases t with
    | groupOpen =>
      rw [freeOpeners] at h
      have hflag : (0 < freeClosers (xs ++ ys)) = (0 < freeClosers xs) := by
        rw [freeClosers_append]
        split at h <;> simp <;> omega
      have hrest : freeOpeners xs = 0 ∨ freeClosers ys = 0 := by
        split at h <;> omega
      have hfree : free + 1 - freeClosers xs + freeOpeners xs =
          free - freeClosers (.groupOpen :: xs) + freeOpeners (.groupOpen :: xs) := by
        rw [freeClosers_open, freeOpeners]
        split <;> omega
      rw [placed, placed, ih hrest, hfree, List.cons_append, Nat.add_right_comm, Nat.add_assoc]
      simp only [hflag]
    | groupClose =>
      rw [freeOpeners_token (by simp)] at h ⊢
      rw [placed, placed, ih h, freeClosers_close, Nat.sub_sub, Nat.add_comm 1, List.cons_append,
        Nat.add_right_comm, Nat.add_assoc]
    | _ =>
      rw [freeOpeners_token (by simp)] at h ⊢
      rw [placed_token (by simp) (by simp), placed_token (by simp) (by simp), ih h,
        freeClosers_token (by simp) (by simp), List.cons_append, Nat.add_right_comm, Nat.add_assoc]

/-- More free brackets in front than the tokens can take do not show in the flags. -/
theorem placed_of_le {ts : List Token} {free free' : Nat} (h : freeClosers ts ≤ free)
    (h' : freeClosers ts ≤ free') (position : Nat) :
    placed position free ts = placed position free' ts := by
  induction ts generalizing position free free' with
  | nil => rfl
  | cons t ts ih =>
    cases t with
    | groupOpen =>
      rw [freeClosers_open] at h h'
      rw [placed, placed, ih (by omega) (by omega : freeClosers ts ≤ free' + 1)]
    | groupClose =>
      rw [freeClosers_close] at h h'
      have hfree : 0 < free := by omega
      have hfree' : 0 < free' := by omega
      rw [placed, placed, ih (by omega) (by omega : freeClosers ts ≤ free' - 1),
        decide_eq_true hfree, decide_eq_true hfree']
    | _ =>
      rw [freeClosers_token (by simp) (by simp)] at h h'
      rw [placed_token (by simp) (by simp), placed_token (by simp) (by simp), ih h h']

end Matching

/-! ### Positions do not matter -/

namespace Piece

def Placed.shift (n : Nat) : Placed → Placed
  | ((t, position), paired) => ((t, position + n), paired)

def shift (n : Nat) : Piece → Piece
  | .opening position paired => .opening (position + n) paired
  | .closing position => .closing (position + n)
  | p => p

theorem placed_shift (n position free : Nat) (ts : List Token) :
    placed (position + n) free ts = (placed position free ts).map (Placed.shift n) := by
  induction ts generalizing position free with
  | nil => rfl
  | cons t ts ih =>
    cases t <;> simp [placed, Placed.shift, ← ih, Nat.add_right_comm]

theorem letterAhead?_shift (n : Nat) (l : List Placed) :
    letterAhead? (l.map (Placed.shift n)) = letterAhead? l := by
  match l with
  | [] | [_] => rfl
  | _ :: ((y, _), _) :: _ => cases y <;> rfl

theorem single_shift (n position : Nat) (paired : Bool) (t : Token) :
    single (position + n) paired t = (single position paired t).shift n := by
  cases t with
  | groupClose => cases paired <;> rfl
  | _ => rfl

theorem reference_shift (n : Nat) (c : Char) : (reference c).shift n = reference c := by
  rw [reference]
  cases Field.ofCode? c <;> rfl

theorem ofPlaced_shift (n : Nat) (l : List Placed) :
    ofPlaced (l.map (Placed.shift n)) = (ofPlaced l).map (shift n) := by
  induction l using placed_induction with
  | nil => rfl
  | single t position paired l h ih =>
    rw [ofPlaced_single position paired h, List.map_cons, List.map_cons, ← ih, ← single_shift]
    exact ofPlaced_single _ _ fun ht => by rw [letterAhead?_shift, h ht]
  | reference position paired x y l c h ih =>
    rw [ofPlaced_reference position paired h]
    simp only [List.map_cons, reference_shift, ← ih]
    exact ofPlaced_reference _ _ ((letterAhead?_shift n (x :: y :: l)).trans h)

theorem Nested.shift (n : Nat) {ps : List Piece} {g : Group} (h : Nested ps g) :
    Nested (ps.map (Piece.shift n)) g := by
  induction h with
  | nil => exact .nil
  | text t _ ih => exact ih.text t
  | field k _ ih => exact ih.field k
  | pipe _ ih => exact ih.pipe
  | pair i j _ _ ihInner ih =>
    rw [List.map_cons, List.map_append]
    exact .pair (i + n) (j + n) ihInner ih

theorem Lines.shift (n : Nat) {ps : List Piece} {g : Group} {gs : List Group}
    (h : Lines ps g gs) : Lines (ps.map (Piece.shift n)) g gs := by
  induction h with
  | nil => exact .nil
  | text t _ ih => exact ih.text t
  | field k _ ih => exact ih.field k
  | pipe _ ih => exact ih.pipe
  | pair i j hi _ ih =>
    rw [List.map_cons, List.map_append]
    exact .pair (i + n) (j + n) (hi.shift n) ih
  | opened i _ ih => exact ih.opened (i + n)

/-! ### A pipe between two parts -/

/-- No field reference goes on beyond a pipe. -/
theorem letterAhead?_append_pipe (l : List Placed) (position : Nat) (paired : Bool)
    (rest : List Placed) :
    letterAhead? (l ++ ((.pipe, position), paired) :: rest) = letterAhead? l := by
  match l with
  | [] =>
    match rest with
    | [] => rfl
    | ((y, _), _) :: _ => cases y <;> rfl
  | [_] => rfl
  | _ :: ((y, _), _) :: _ => cases y <;> rfl

theorem ofPlaced_append_pipe (l : List Placed) (position : Nat) (paired : Bool)
    (rest : List Placed) :
    ofPlaced (l ++ ((.pipe, position), paired) :: rest) =
      ofPlaced l ++ .pipe :: ofPlaced rest := by
  induction l using placed_induction with
  | nil => exact ofPlaced_single _ _ (by simp)
  | single t i b l h ih =>
    rw [ofPlaced_single i b h, List.cons_append, List.cons_append, ← ih]
    exact ofPlaced_single _ _ fun ht => by rw [letterAhead?_append_pipe, h ht]
  | reference i b x y l c h ih =>
    rw [ofPlaced_reference i b h]
    simp only [List.cons_append, ← ih]
    exact ofPlaced_reference _ _ ((letterAhead?_append_pipe (x :: y :: l) _ _ _).trans h)

theorem Lines.append {ps qs : List Piece} {g h : Group} {gs hs : List Group}
    (hp : Lines ps g gs) (hq : Lines qs h hs) : Lines (ps ++ .pipe :: qs) g (gs ++ h :: hs) := by
  induction hp with
  | nil => exact hq.pipe
  | text t _ ih => exact ih.text t
  | field k _ ih => exact ih.field k
  | pipe _ ih => exact ih.pipe
  | pair i j hi _ ih =>
    rw [List.cons_append, List.append_assoc, List.cons_append]
    exact .pair i j hi ih
  | opened i _ ih => exact ih.opened i

/-- The pieces of two lists with a pipe between them, if no bracket of one takes one of the other. -/
theorem ofTokens_append_pipe {xs ys : List Token}
    (h : freeOpeners xs = 0 ∨ freeClosers ys = 0) :
    ofTokens (xs ++ .pipe :: ys) =
      ofTokens xs ++ .pipe :: (ofTokens ys).map (shift (xs.length + 1)) := by
  have hpipe : freeClosers (.pipe :: ys) = freeClosers ys := freeClosers_token (by simp) (by simp) ys
  have hfree : placed (xs.length + 1) (freeOpeners xs) ys = placed (xs.length + 1) 0 ys := by
    rcases h with h | h
    · rw [h]
    · exact placed_of_le (by omega) (by omega) _
  rw [ofTokens_eq, placed_append (by rwa [hpipe]), placed_token (by simp) (by simp),
    ofPlaced_append_pipe, Nat.zero_sub, Nat.zero_add, Nat.zero_add, hfree,
    ← Nat.zero_add (xs.length + 1), placed_shift, ofPlaced_shift, ← ofTokens_eq, ← ofTokens_eq,
    Nat.zero_add]

end Piece

theorem keptLines_append (gs hs : List Group) :
    keptLines (gs ++ hs) = keptLines gs ++ keptLines hs :=
  List.filter_append ..

theorem groupsOfTokens_append_pipe {xs ys : List Token}
    (h : freeOpeners xs = 0 ∨ freeClosers ys = 0) :
    groupsOfTokens (xs ++ .pipe :: ys) = groupsOfTokens xs ++ groupsOfTokens ys := by
  obtain ⟨g, gs, hx⟩ := exists_lines_ofTokens xs
  obtain ⟨g', gs', hy⟩ := exists_lines_ofTokens ys
  have hlines := hx.append (hy.shift (xs.length + 1))
  rw [← ofTokens_append_pipe h] at hlines
  rw [groupsOfTokens_eq hlines, groupsOfTokens_eq hx, groupsOfTokens_eq hy, ← List.cons_append,
    keptLines_append]

/-- Two styles with a pipe between them have the groups of the first and then those of the second,
and so for the lines they show, unless a backslash at the end of the first takes the pipe or an
opening bracket left over in the first takes a closing one left over in the second. -/
theorem groups_append_pipe {a b : Text} (ha : (ofStyle a).getLast? ≠ some .backslash)
    (hab : ¬(LeavesOpener (ofStyle a) ∧ LeavesCloser (ofStyle b))) :
    (Template.ofStyle (a ++ '|' :: b)).groups =
        (Template.ofStyle a).groups ++ (Template.ofStyle b).groups ∧
      ∀ m, (Template.ofStyle (a ++ '|' :: b)).evaluate m =
        (Template.ofStyle a).evaluate m ++ (Template.ofStyle b).evaluate m := by
  have hfree : freeOpeners (ofStyle a) = 0 ∨ freeClosers (ofStyle b) = 0 := by
    rw [leavesOpener_iff, leavesCloser_iff] at hab
    omega
  have hgroups : (Template.ofStyle (a ++ '|' :: b)).groups =
      (Template.ofStyle a).groups ++ (Template.ofStyle b).groups := by
    rw [Template.ofStyle, ofStyle_append_pipe ha]
    exact groupsOfTokens_append_pipe hfree
  refine ⟨hgroups, fun m => ?_⟩
  rw [Template.evaluate, hgroups, List.filterMap_append, Template.evaluate, Template.evaluate]

/-- A bracket left open in the first line does not reach for the pair in the second. -/
theorem groups_append_pipe_brackets :
    (ofStyle ['[', 'x']).getLast? ≠ some .backslash ∧
      (LeavesOpener (ofStyle ['[', 'x']) ∧ ¬LeavesCloser (ofStyle ['[', 'y', ']'])) ∧
      (Template.ofStyle ['[', 'x', '|', '[', 'y', ']']).groups =
        [[.subgroup [.literal ['x']]], [.subgroup [.literal ['y']]]] ∧
      ∀ m, (Template.ofStyle ['[', 'x', '|', '[', 'y', ']']).evaluate m = [['x'], ['y']] := by
  have hlast : (ofStyle ['[', 'x']).getLast? ≠ some .backslash := by decide
  have hopener : LeavesOpener (ofStyle ['[', 'x']) := (leavesOpener_iff _).2 (by decide)
  have hcloser : ¬LeavesCloser (ofStyle ['[', 'y', ']']) := by
    rw [leavesCloser_iff]
    decide
  obtain ⟨hgroups, hlines⟩ :=
    groups_append_pipe hlast (b := ['[', 'y', ']']) fun h => hcloser h.2
  refine ⟨hlast, ⟨hopener, hcloser⟩, hgroups, fun m => ?_⟩
  refine (hlines m).trans ?_
  simp only [Template.evaluate, Group.line?_eq]
  rfl

end RadioText
