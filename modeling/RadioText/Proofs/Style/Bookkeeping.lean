import RadioText.Proofs.Style.Roles

/-! The parser's counter and its stack, which it trusts at every step. `StackParser` trusts neither:
it has all groups on one stack, and stops where that is empty, where only the line itself is on it
and should be closed, or where no pair is open and one should end. It never stops, and reads the
same groups. `Course` says which brackets are on the stack at every piece; from it the count of open
pairs is right all along, and a closing bracket always finds its partner. -/
namespace RadioText
open Matching Grammar Piece

structure StackParser where
  groups : List Group := []
  stack : List Draft := [{}]
  pairedDepth : Nat := 0

namespace StackParser

def onTop (f : Draft → Draft) (p : StackParser) : Option StackParser :=
  match p.stack with
  | [] => none
  | d :: outer => some { p with stack := f d :: outer }

def closeTop (p : StackParser) : Option StackParser :=
  match p.stack with
  | d :: parent :: outer => some { p with stack := parent.add (.subgroup d.group) :: outer }
  | _ => none

def leavePair (p : StackParser) : Option StackParser :=
  match p.pairedDepth with
  | 0 => none
  | n + 1 => some { p with pairedDepth := n }

def collapse : Draft → List Draft → Draft
  | d, [] => d
  | d, parent :: outer => collapse (parent.add (.subgroup d.group)) outer

def finish (p : StackParser) : Option StackParser :=
  match p.stack with
  | [] => none
  | d :: outer =>
    let g := (collapse d outer).group
    some { p with groups := if g.isEmpty then p.groups else g :: p.groups, stack := [{}] }

def step (p : StackParser) : Piece → Option StackParser
  | .text t => p.onTop (·.text t)
  | .field k => p.onTop (·.add (.field k))
  | .opening _ paired =>
    some { p with
      stack := {} :: p.stack
      pairedDepth := if paired then p.pairedDepth + 1 else p.pairedDepth }
  | .closing _ => p.closeTop.bind leavePair
  | .pipe => if p.pairedDepth = 0 then p.finish else p.onTop (·.text ['|'])

def groups? (ts : List Token) : Option (List Group) := do
  let p ← (ofTokens ts).foldlM step {}
  let p ← p.finish
  return p.groups.reverse

end StackParser

/-! ### Which brackets are open -/

def openPairs (qs : List (Nat × Nat)) (opened : List Nat) : Nat :=
  opened.countP fun n => (qs.lookup n).isSome

/-- Pieces to come, where `opened` are the brackets on the stack, the innermost first, and `qs` the
matched brackets. -/
inductive Course (qs : List (Nat × Nat)) : List Nat → List Piece → Prop
  | nil {opened : List Nat} (h : openPairs qs opened = 0) : Course qs opened []
  | text (t : Text) {opened : List Nat} {ps : List Piece} :
    Course qs opened ps → Course qs opened (.text t :: ps)
  | field (k : Field) {opened : List Nat} {ps : List Piece} :
    Course qs opened ps → Course qs opened (.field k :: ps)
  | opening (n : Nat) {opened : List Nat} {ps : List Piece} :
    Course qs (n :: opened) ps → Course qs opened (.opening n (qs.lookup n).isSome :: ps)
  | closing {n j : Nat} (h : (n, j) ∈ qs) {opened : List Nat} {ps : List Piece} :
    Course qs opened ps → Course qs (n :: opened) (.closing j :: ps)
  | innerPipe {opened : List Nat} (h : openPairs qs opened ≠ 0) {ps : List Piece} :
    Course qs opened ps → Course qs opened (.pipe :: ps)
  | pipe {opened : List Nat} (h : openPairs qs opened = 0) {ps : List Piece} :
    Course qs [] ps → Course qs opened (.pipe :: ps)

theorem isSome_lookup_of_mem {qs : List (Nat × Nat)} {n j : Nat} (h : (n, j) ∈ qs) :
    (qs.lookup n).isSome = true :=
  List.lookup_isSome_iff.2 ⟨(n, j), h, beq_self_eq_true n⟩

theorem openPairs_eq_zero_iff {qs : List (Nat × Nat)} {opened : List Nat} :
    openPairs qs opened = 0 ↔ ∀ n ∈ opened, qs.lookup n = none := by
  simp only [openPairs, List.countP_eq_zero, Option.not_isSome_iff_eq_none]

/-- A field reference is a field or text, and no bracket. -/
theorem Piece.reference_eq (c : Char) :
    (∃ k, reference c = .field k) ∨ ∃ t, reference c = .text t := by
  rw [reference]
  cases Field.ofCode? c with
  | none => exact .inr ⟨_, rfl⟩
  | some k => exact .inl ⟨k, rfl⟩

theorem Course.reference {qs : List (Nat × Nat)} {opened : List Nat} {ps : List Piece}
    (h : Course qs opened ps) (c : Char) : Course qs opened (Piece.reference c :: ps) := by
  rcases Piece.reference_eq c with ⟨k, hk⟩ | ⟨t, ht⟩
  · exact hk ▸ h.field k
  · exact ht ▸ h.text t

/-- Of the brackets `free` that are unmatched before the tokens, `opened` are on the stack: all that
the tokens match. Those after them are never matched. -/
structure OnStack (qs : List (Nat × Nat)) (free : List Nat) (ts : List Token) (opened : List Nat) :
    Prop where
  matched : free.take (freeClosers ts) <+: opened
  free : opened <+: free
  unmatched : ∀ n ∈ opened.drop (freeClosers ts), qs.lookup n = none

namespace OnStack

variable {qs : List (Nat × Nat)} {position : Nat} {free opened : List Nat} {ts : List Token}

theorem token {t : Token} (h : OnStack qs free (t :: ts) opened) (ho : t ≠ .groupOpen)
    (hc : t ≠ .groupClose) : OnStack qs free ts opened := by
  obtain ⟨hmatched, hfree, hunmatched⟩ := h
  rw [freeClosers_token ho hc] at hmatched hunmatched
  exact ⟨hmatched, hfree, hunmatched⟩

/-- The stack may be empty where no free bracket is matched any more. -/
theorem cleared (hout : free = [] ∨ freeClosers ts = 0) : OnStack qs free ts [] where
  matched := by rcases hout with rfl | hf <;> simp [*]
  free := List.nil_prefix
  unmatched := by simp

/-- An opening bracket goes on the stack. -/
theorem push (h : OnStack qs free (.groupOpen :: ts) opened)
    (hc : Continues qs position free (.groupOpen :: ts)) :
    OnStack qs (position :: free) ts (position :: opened) := by
  obtain ⟨hmatched, hfree, hunmatched⟩ := h
  rw [freeClosers_open] at hmatched hunmatched
  refine ⟨?_, List.cons_prefix_cons.2 ⟨rfl, hfree⟩, ?_⟩
  · cases hf : freeClosers ts with
    | zero => exact List.nil_prefix
    | succ n =>
      rw [hf] at hmatched
      exact List.cons_prefix_cons.2 ⟨rfl, hmatched⟩
  · cases hf : freeClosers ts with
    | zero =>
      rw [hf] at hunmatched
      exact List.forall_mem_cons.2 ⟨hc.lookup_opened hf, hunmatched⟩
    | succ n =>
      rw [hf] at hunmatched
      exact hunmatched

/-- A closing bracket finds the nearest free bracket on top of the stack. -/
theorem pop {nearest : Nat} {others : List Nat}
    (h : OnStack qs (nearest :: others) (.groupClose :: ts) opened) :
    ∃ rest, opened = nearest :: rest ∧ OnStack qs others ts rest := by
  obtain ⟨hmatched, hfree, hunmatched⟩ := h
  rw [freeClosers_close] at hmatched hunmatched
  rw [List.take_succ_cons] at hmatched
  cases opened with
  | nil => simp at hmatched
  | cons n rest =>
    obtain ⟨rfl, hrest⟩ := List.cons_prefix_cons.1 hmatched
    exact ⟨rest, rfl, hrest, (List.cons_prefix_cons.1 hfree).2, hunmatched⟩

/-- No bracket on the stack has a partner if none is free or the tokens match none. -/
theorem openPairs_eq_zero (h : OnStack qs free ts opened) (hout : free = [] ∨ freeClosers ts = 0) :
    openPairs qs opened = 0 := by
  rw [openPairs_eq_zero_iff]
  rcases hout with rfl | hf
  · rw [List.prefix_nil.1 h.free]
    exact List.forall_mem_nil _
  · simpa [hf] using h.unmatched

theorem openPairs_ne_zero {nearest j : Nat} {others : List Nat}
    (h : OnStack qs (nearest :: others) ts opened) (hf : 0 < freeClosers ts)
    (hj : (nearest, j) ∈ qs) : openPairs qs opened ≠ 0 := by
  intro hzero
  obtain ⟨n, hn⟩ := Nat.exists_eq_add_of_lt hf
  have hmem : nearest ∈ opened := by
    apply h.matched.subset
    simp [hn]
  have hnone := openPairs_eq_zero_iff.1 hzero nearest hmem
  simpa [hnone] using isSome_lookup_of_mem hj

end OnStack

/-- The brackets on the stack at every piece. -/
theorem course_placed {qs : List (Nat × Nat)} (ts : List Token) {position : Nat}
    {free opened : List Nat} (h : Continues qs position free ts) (hfree : ∀ n ∈ free, n < position)
    (ho : OnStack qs free ts opened) :
    Course qs opened (ofPlaced (placed position free.length ts)) := by
  have hnext : ∀ n ∈ free, n < position + 1 := fun n hn => Nat.lt_succ_of_lt (hfree n hn)
  match ts with
  | [] => exact .nil (ho.openPairs_eq_zero (.inr rfl))
  | .groupOpen :: ts =>
    have ih := course_placed ts h.opened
      (List.forall_mem_cons.2 ⟨Nat.lt_succ_self _, hnext⟩) (ho.push h)
    rw [placed, ofPlaced_single _ _ (by simp), single, ← h.isSome_lookup]
    exact .opening position ih
  | .groupClose :: ts =>
    rw [placed, ofPlaced_single _ _ (by simp)]
    cases free with
    | nil =>
      -- Nothing is free, so nothing is on the stack either.
      obtain rfl := List.prefix_nil.1 ho.free
      have ih := course_placed ts h.unmatched (by simp) (OnStack.cleared (.inl rfl))
      exact .text [']'] ih
    | cons nearest others =>
      obtain ⟨hn, _⟩ := List.forall_mem_cons.1 hfree
      obtain ⟨rest, rfl, hrest⟩ := ho.pop
      have ih := course_placed ts (h.matched hn) (List.forall_mem_cons.1 hnext).2 hrest
      exact .closing (Continues.mem_of_balanced (.nil : Balanced []) h) ih
  | .pipe :: ts =>
    have hstep := h.token (by simp) (by simp)
    have ho := ho.token (by simp) (by simp)
    rw [placed_token (by simp) (by simp), ofPlaced_single _ _ (by simp)]
    by_cases hout : free = [] ∨ freeClosers ts = 0
    · have ih := course_placed ts hstep hnext (OnStack.cleared hout)
      exact .pipe (ho.openPairs_eq_zero hout) ih
    · obtain ⟨hf, hc⟩ := not_or.1 hout
      obtain ⟨nearest, others, rfl⟩ := List.exists_cons_of_ne_nil hf
      have hpos := Nat.pos_of_ne_zero hc
      obtain ⟨inner, rest, hb, rfl⟩ := exists_balanced_of_freeClosers_pos ts hpos
      have ih := course_placed (inner ++ .groupClose :: rest) hstep hnext ho
      exact .innerPipe (ho.openPairs_ne_zero hpos (hstep.mem_of_balanced hb)) ih
  | .fieldOpen :: ts =>
    have hstep := h.token (by simp) (by simp)
    have ho := ho.token (by simp) (by simp)
    cases hletter : letter? (ts.zipIdx (position + 1)) with
    | none =>
      have ih := course_placed ts hstep hnext ho
      rw [placed_token (by simp) (by simp),
        ofPlaced_single _ _ fun _ => by rw [letterAhead?_placed, hletter]]
      exact .text _ ih
    | some c =>
      obtain ⟨x, ts, rfl, hx⟩ := letter?_eq_some hletter
      obtain ⟨hxo, hxc, _⟩ := oneChar?_ne_bracket hx
      have ih := course_placed ts ((hstep.token hxo hxc).token (by simp) (by simp))
        (fun n hn => Nat.lt_add_right 2 (hnext n hn))
        ((ho.token hxo hxc).token (by simp) (by simp))
      rw [ofPlaced_reference_tokens hx]
      exact ih.reference c
  | .fieldClose :: ts | .backslash :: ts | .escaped _ :: ts | .text _ :: ts =>
    have ih := course_placed ts (h.token (by simp) (by simp)) hnext (ho.token (by simp) (by simp))
    rw [placed_token (by simp) (by simp), ofPlaced_single _ _ (by simp),
      single_text (by simp) (by simp) (by simp)]
    exact .text _ ih
termination_by ts.length

theorem course_ofTokens (ts : List Token) : Course (pairs ts) [] (ofTokens ts) := by
  rw [ofTokens_eq]
  exact course_placed ts (continues_start ts) (by simp) (OnStack.cleared (.inl rfl))

/-! ### The parser on its course -/

structure Parser.Tracks (qs : List (Nat × Nat)) (opened : List Nat) (p : Parser) : Prop where
  positions : p.enclosing.map Enclosing.position = opened
  flags : ∀ e ∈ p.enclosing, e.paired = (qs.lookup e.position).isSome
  counted : p.pairedDepth = openPairs qs opened

namespace Parser

variable {qs : List (Nat × Nat)} {opened : List Nat} {p : Parser}

theorem openPairs_positions (qs : List (Nat × Nat)) (enclosing : List Enclosing) :
    openPairs qs (enclosing.map Enclosing.position) =
      enclosing.countP fun e => (qs.lookup e.position).isSome := by
  rw [openPairs, List.countP_map]
  rfl

theorem tracks_start (qs : List (Nat × Nat)) : Tracks qs [] {} :=
  ⟨rfl, by simp, rfl⟩

theorem Tracks.text (h : Tracks qs opened p) (t : Text) : Tracks qs opened (p.step (.text t)) :=
  ⟨h.positions, h.flags, h.counted⟩

theorem Tracks.field (h : Tracks qs opened p) (k : Field) : Tracks qs opened (p.step (.field k)) :=
  ⟨h.positions, h.flags, h.counted⟩

theorem Tracks.opening (h : Tracks qs opened p) (n : Nat) :
    Tracks qs (n :: opened) (p.step (.opening n (qs.lookup n).isSome)) where
  positions := congrArg (n :: ·) h.positions
  flags := List.forall_mem_cons.2 ⟨rfl, h.flags⟩
  counted := by
    rw [openPairs, List.countP_cons, ← openPairs, ← h.counted]
    cases (qs.lookup n).isSome <;> rfl

theorem Tracks.exists_enclosing {n : Nat} (h : Tracks qs (n :: opened) p) :
    ∃ e outer, p.enclosing = e :: outer ∧ e.position = n ∧
      outer.map Enclosing.position = opened := by
  cases he : p.enclosing with
  | nil => simpa [he] using h.positions
  | cons e outer =>
    have hpos := h.positions
    rw [he, List.map_cons] at hpos
    obtain ⟨hn, hrest⟩ := List.cons.inj hpos
    exact ⟨e, outer, rfl, hn, hrest⟩

theorem Tracks.counted_matched {n j : Nat} (h : Tracks qs (n :: opened) p) (hj : (n, j) ∈ qs) :
    p.pairedDepth = openPairs qs opened + 1 := by
  rw [h.counted, openPairs, List.countP_cons, isSome_lookup_of_mem hj]
  rfl

theorem Tracks.closing {n j : Nat} (h : Tracks qs (n :: opened) p) (hj : (n, j) ∈ qs) :
    Tracks qs opened (p.step (.closing j)) := by
  obtain ⟨e, outer, he, -, hrest⟩ := h.exists_enclosing
  have hflags := h.flags
  rw [he, List.forall_mem_cons] at hflags
  have hcounted := h.counted_matched hj
  simp only [step, he]
  exact ⟨hrest, hflags.2, by simp [hcounted]⟩

theorem Tracks.innerPipe (h : Tracks qs opened p) (ho : openPairs qs opened ≠ 0) :
    Tracks qs opened (p.step .pipe) := by
  rw [← h.counted] at ho
  rw [step_innerPipe (Nat.pos_of_ne_zero ho)]
  exact h.text ['|']

theorem Tracks.pipe (h : Tracks qs opened p) (ho : openPairs qs opened = 0) :
    Tracks qs [] (p.step .pipe) := by
  have hzero : p.pairedDepth = 0 := h.counted.trans ho
  rw [step_pipe hzero]
  exact ⟨rfl, by simp [finish], hzero⟩

/-- One piece: the parser then has on its stack what the pieces behind it expect. -/
theorem Tracks.step {q : Piece} {ps : List Piece} (h : Tracks qs opened p)
    (hc : Course qs opened (q :: ps)) :
    ∃ opened', Tracks qs opened' (p.step q) ∧ Course qs opened' ps := by
  cases hc with
  | text t hc => exact ⟨_, h.text t, hc⟩
  | field k hc => exact ⟨_, h.field k, hc⟩
  | opening n hc => exact ⟨_, h.opening n, hc⟩
  | closing hj hc => exact ⟨_, h.closing hj, hc⟩
  | innerPipe ho hc => exact ⟨_, h.innerPipe ho, hc⟩
  | pipe ho hc => exact ⟨_, h.pipe ho, hc⟩

theorem Tracks.foldl_take {ps : List Piece} (h : Tracks qs opened p) (hc : Course qs opened ps)
    (n : Nat) :
    ∃ opened', Tracks qs opened' ((ps.take n).foldl Parser.step p) ∧
      Course qs opened' (ps.drop n) := by
  induction ps generalizing p opened n with
  | nil => exact ⟨opened, by simpa using h, by simpa using hc⟩
  | cons q ps ih =>
    cases n with
    | zero => exact ⟨opened, h, hc⟩
    | succ n =>
      obtain ⟨opened', h, hc⟩ := h.step hc
      exact ih h hc n

/-- The subgroups on the stack are those of opening pieces. -/
theorem mem_enclosing_foldl {ps : List Piece} {e : Enclosing}
    (h : e ∈ (ps.foldl step p).enclosing) :
    e ∈ p.enclosing ∨ .opening e.position e.paired ∈ ps := by
  induction ps generalizing p with
  | nil => exact .inl h
  | cons q ps ih =>
    rw [List.foldl_cons] at h
    rcases ih h with h | h
    · cases q with
      | text t => exact .inl h
      | field k => exact .inl h
      | opening n paired =>
        rcases List.mem_cons.1 h with rfl | h
        · exact .inr List.mem_cons_self
        · exact .inl h
      | closing j =>
        rw [step] at h
        split at h
        · exact .inl h
        · rename_i he
          exact .inl (he ▸ List.mem_cons_of_mem _ h)
      | pipe =>
        rw [step] at h
        split at h
        · cases h
        · exact .inl h
    · exact .inr (List.mem_cons_of_mem q h)

end Parser

theorem Piece.single_eq_opening {t : Token} {position n : Nat} {flag paired : Bool}
    (h : single position flag t = .opening n paired) :
    t = .groupOpen ∧ position = n ∧ flag = paired := by
  cases t with
  | groupOpen =>
    cases h
    exact ⟨rfl, rfl, rfl⟩
  | groupClose => cases flag <;> cases h
  | _ => cases h

/-- An opening piece stands for an opening bracket, and has its place and its flag. -/
theorem Piece.mem_ofPlaced_opening {n : Nat} {paired : Bool} {l : List Placed}
    (h : .opening n paired ∈ ofPlaced l) : ((.groupOpen, n), paired) ∈ l := by
  induction l using placed_induction with
  | nil => cases h
  | single t position flag l hnone ih =>
    rw [ofPlaced_single position flag hnone] at h
    rcases List.mem_cons.1 h with h | h
    · obtain ⟨rfl, rfl, rfl⟩ := single_eq_opening h.symm
      exact List.mem_cons_self
    · exact List.mem_cons_of_mem _ (ih h)
  | reference position flag x y l c hletter ih =>
    rw [ofPlaced_reference position flag hletter] at h
    rcases List.mem_cons.1 h with h | h
    · rcases reference_eq c with ⟨_, hc⟩ | ⟨_, hc⟩ <;> rw [hc] at h <;> cases h
    · simp [ih h]

theorem Piece.getElem?_of_mem_ofTokens {n : Nat} {paired : Bool} {ts : List Token}
    (h : .opening n paired ∈ ofTokens ts) : ts[n]? = some .groupOpen := by
  have hmem := (List.of_mem_zip (mem_ofPlaced_opening h)).1
  simpa [List.mem_zipIdx_iff_getElem?] using hmem

/-- The closing pieces stand for the closing brackets that have a partner. -/
theorem Grammar.Roles.closing_mem_iff {qs : List (Nat × Nat)} {depth : Nat}
    {ts : List (Token × Nat)} {ps : List Piece} (h : Roles qs depth ts ps) (j : Nat) :
    .closing j ∈ ps ↔ (.groupClose, j) ∈ ts ∧ closes qs j = true := by
  induction h with
  | nil => simp
  | text n ho hc hp _ ih => simp [ih, hc.symm]
  | @reference _ x c n hx ts ps _ ih =>
    obtain ⟨_, hc, _⟩ := oneChar?_ne_bracket hx
    have hne : .closing j ≠ Piece.reference c := by
      rcases Piece.reference_eq c with ⟨_, hr⟩ | ⟨_, hr⟩ <;> simp [hr]
    simp [ih, hc.symm, hne]
  | paired hn _ ih | opened hn _ ih | innerPipe hn _ ih | pipe hn _ ih => simp [ih]
  | @closing _ n hn ts ps _ ih =>
    by_cases hj : j = n
    · simp [hj, hn]
    · simp [ih, hj]
  | @unmatched n hn ts ps _ ih =>
    by_cases hj : j = n
    · subst hj
      simp [ih, hn]
    · simp [ih, hj]

theorem Matching.mem_zipIdx_of_mem_pairsFrom {q : Nat × Nat} {position : Nat} {free : List Nat}
    {ts : List Token} (h : q ∈ pairsFrom position free ts) :
    (.groupClose, q.2) ∈ ts.zipIdx position := by
  induction ts generalizing position free with
  | nil => cases h
  | cons t ts ih =>
    rw [List.zipIdx_cons]
    cases t with
    | groupClose =>
      cases free with
      | nil => exact List.mem_cons_of_mem _ (ih h)
      | cons nearest others =>
        rcases List.mem_cons.1 h with rfl | h
        · exact List.mem_cons_self
        · exact List.mem_cons_of_mem _ (ih h)
    | _ => exact List.mem_cons_of_mem _ (ih h)

theorem Piece.closing_mem_ofTokens_iff (ts : List Token) (j : Nat) :
    .closing j ∈ ofTokens ts ↔ ∃ n, (n, j) ∈ pairs ts := by
  rw [(roles_ofTokens ts).closing_mem_iff]
  constructor
  · rintro ⟨-, hcloses⟩
    obtain ⟨⟨n, m⟩, hmem, hm⟩ := List.any_eq_true.1 hcloses
    obtain rfl : m = j := of_decide_eq_true hm
    exact ⟨n, hmem⟩
  · rintro ⟨n, hmem⟩
    exact ⟨mem_zipIdx_of_mem_pairsFrom hmem, closes_of_mem hmem⟩

namespace Parser

/-- The parser's books in front of a piece, `none` at the end of the tokens: the brackets on the
stack are brackets of the tokens, with the right flags, and as many of them have a partner as are
counted; a closing bracket has its partner on top of the stack, and a pair to end; when a line ends,
no bracket on the stack has a partner; and at the end of the tokens no pair is open. -/
structure InStep (ts : List Token) (p : Parser) (next : Option Piece) : Prop where
  positions : ∀ e ∈ p.enclosing, ts[e.position]? = some .groupOpen
  flags : ∀ e ∈ p.enclosing, e.paired = ((pairs ts).lookup e.position).isSome
  counted : p.pairedDepth = p.enclosing.countP fun e => ((pairs ts).lookup e.position).isSome
  closing : ∀ j, next = some (.closing j) →
    0 < p.pairedDepth ∧ ∃ e outer, p.enclosing = e :: outer ∧ (e.position, j) ∈ pairs ts
  finishing : next = some .pipe ∧ p.pairedDepth = 0 ∨ next = none →
    ∀ e ∈ p.enclosing, (pairs ts).lookup e.position = none
  ended : next = none → p.pairedDepth = 0

theorem Tracks.inStep {ts : List Token} {ps : List Piece} (h : Tracks (pairs ts) opened p)
    (hc : Course (pairs ts) opened ps) (hp : ∀ e ∈ p.enclosing, ts[e.position]? = some .groupOpen) :
    InStep ts p ps.head? where
  positions := hp
  flags := h.flags
  counted := by rw [h.counted, ← h.positions, openPairs_positions]
  closing j hj := by
    cases hc with
    | closing hmem =>
      obtain ⟨e, outer, he, rfl, -⟩ := h.exists_enclosing
      cases hj
      exact ⟨h.counted_matched hmem ▸ Nat.succ_pos _, e, outer, he, hmem⟩
    | _ => cases hj
  finishing hnext := by
    have hzero : p.pairedDepth = 0 := by
      rcases hnext with ⟨-, hzero⟩ | hnext
      · exact hzero
      · cases hc with
        | nil ho => exact h.counted.trans ho
        | _ => cases hnext
    rw [h.counted, ← h.positions, openPairs_eq_zero_iff] at hzero
    exact fun e he => hzero _ (List.mem_map_of_mem he)
  ended hnext := by
    cases hc with
    | nil ho => exact h.counted.trans ho
    | _ => cases hnext

theorem inStep_run (ts : List Token) (n : Nat) :
    InStep ts (run ((ofTokens ts).take n)) (ofTokens ts)[n]? := by
  obtain ⟨opened, h, hc⟩ := (tracks_start (pairs ts)).foldl_take (course_ofTokens ts) n
  rw [← List.head?_drop]
  refine h.inStep hc fun e he => ?_
  rcases mem_enclosing_foldl he with he | he
  · cases he
  · exact getElem?_of_mem_ofTokens (List.mem_of_mem_take he)

end Parser

/-! ### The parser that stops -/

namespace StackParser

def ofParser (p : Parser) : StackParser :=
  ⟨p.groups, p.current :: p.enclosing.map Enclosing.parent, p.pairedDepth⟩

theorem collapse_eq (d : Draft) (enclosing : List Enclosing) :
    collapse d (enclosing.map Enclosing.parent) = Parser.unwind d enclosing := by
  induction enclosing generalizing d with
  | nil => rfl
  | cons e outer ih => exact ih _

theorem finish_ofParser (p : Parser) : (ofParser p).finish = some (ofParser p.finish) := by
  simp only [ofParser, finish, collapse_eq]
  rfl

variable {qs : List (Nat × Nat)} {opened : List Nat} {p : Parser}

/-- On its course the parser may trust its stack and its counter. -/
theorem step_ofParser {q : Piece} {ps : List Piece} (h : p.Tracks qs opened)
    (hc : Course qs opened (q :: ps)) : (ofParser p).step q = some (ofParser (p.step q)) := by
  cases hc with
  | text | field | opening => rfl
  | @closing n j hj =>
    obtain ⟨e, outer, he, -, -⟩ := h.exists_enclosing
    have hcounted := h.counted_matched hj
    simp [step, closeTop, leavePair, ofParser, Parser.step, he, hcounted]
  | innerPipe ho =>
    rw [← h.counted] at ho
    simp [step, onTop, ofParser, Parser.step, ho]
  | pipe ho =>
    rw [← h.counted] at ho
    rw [Parser.step_pipe ho, step, ofParser, if_pos ho]
    exact finish_ofParser p

theorem foldlM_ofParser {ps : List Piece} (h : p.Tracks qs opened) (hc : Course qs opened ps) :
    ps.foldlM step (ofParser p) = some (ofParser (ps.foldl Parser.step p)) := by
  induction ps generalizing p opened with
  | nil => rfl
  | cons q ps ih =>
    rw [List.foldlM_cons, step_ofParser h hc, List.foldl_cons]
    obtain ⟨opened', h, hc⟩ := h.step hc
    exact ih h hc

theorem groups?_eq (ts : List Token) : groups? ts = some (groupsOfTokens ts) := by
  have hrun := foldlM_ofParser (Parser.tracks_start (pairs ts)) (course_ofTokens ts)
  have hstart : ofParser {} = {} := rfl
  rw [groups?, ← hstart, hrun]
  simp only [Option.bind_eq_bind, Option.bind_some, finish_ofParser]
  rfl

end StackParser

/-- The parser's books are right throughout, whatever the tokens: in front of every piece and at the
end it is in step with the matched brackets, each closing bracket of which it meets. It never finds
its stack empty, nor a bracket with no subgroup to close, nor the end of a pair that it has not
counted. -/
theorem Parser.inStep_throughout (ts : List Token) :
    (∀ n, InStep ts (run ((ofTokens ts).take n)) (ofTokens ts)[n]?) ∧
      (∀ j, .closing j ∈ ofTokens ts ↔ ∃ n, (n, j) ∈ pairs ts) ∧
      StackParser.groups? ts = some (groupsOfTokens ts) :=
  ⟨inStep_run ts, closing_mem_ofTokens_iff ts, StackParser.groups?_eq ts⟩

-- Pieces that no tokens have do stop the second parser.
example : [Piece.opening 0 false, .closing 1].foldlM StackParser.step {} = none := rfl

end RadioText
