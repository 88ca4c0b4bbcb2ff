import Mathlib.Tactic.MkIffOfInductiveProp
import RadioText.Proofs.Style.Roles

/-! Which brackets are partners, told by counting and without a stack: an opening bracket and a
closing bracket after it, if between them there are as many of one kind as of the other, and at no
place more closing ones so far. The stack of `pairs` finds these partners and nothing else, and the
flags that the parser has from its two scans mark them and nothing else. -/
namespace RadioText.Matching
open Grammar

def stretch (ts : List Token) (start stop : Nat) : List Token := (ts.take stop).drop start

structure Partners (ts : List Token) (i j : Nat) : Prop where
  opening : ts[i]? = some .groupOpen
  closing : ts[j]? = some .groupClose
  after : i < j
  even : (stretch ts (i + 1) j).count .groupOpen = (stretch ts (i + 1) j).count .groupClose
  within : ∀ p, p <+: stretch ts (i + 1) j → p.count .groupClose ≤ p.count .groupOpen

def marked (ts : List Token) : List (Token × Bool) := ts.zip (Pairing.paired ts)

/-! ### What closing brackets take -/

@[mk_iff]
structure Takes (depth : Nat) (ts : List Token) : Prop where
  even : ts.count .groupClose = ts.count .groupOpen + depth
  within : ∀ p, p <+: ts → p.count .groupClose ≤ p.count .groupOpen + depth

/-- The closing bracket at `j` is for an opening bracket before `start`: the free one that has
`depth` others nearer. -/
@[mk_iff]
structure Reaches (ts : List Token) (start depth j : Nat) : Prop where
  closing : ts[j]? = some .groupClose
  after : start ≤ j
  takes : Takes depth (stretch ts start j)

theorem forall_prefix_cons {α : Type} {P : List α → Prop} {a : α} {l : List α} :
    (∀ p, p <+: a :: l → P p) ↔ P [] ∧ ∀ p, p <+: l → P (a :: p) := by
  constructor
  · intro h
    exact ⟨h [] List.nil_prefix, fun p hp => h (a :: p) (List.cons_prefix_cons.2 ⟨rfl, hp⟩)⟩
  · rintro ⟨hnil, hcons⟩ p hp
    obtain rfl | ⟨q, rfl, hq⟩ := List.prefix_cons_iff.1 hp
    · exact hnil
    · exact hcons q hq

namespace Takes

variable {depth : Nat} {ts : List Token}

theorem nil_iff : Takes depth [] ↔ depth = 0 := by
  simp [takes_iff, eq_comm]

theorem open_iff : Takes depth (.groupOpen :: ts) ↔ Takes (depth + 1) ts := by
  simp [takes_iff, forall_prefix_cons, Nat.add_right_comm, Nat.add_assoc]

theorem close_iff : Takes (depth + 1) (.groupClose :: ts) ↔ Takes depth ts := by
  simp [takes_iff, forall_prefix_cons, ← Nat.add_assoc]

theorem not_close : ¬Takes 0 (.groupClose :: ts) := by
  intro h
  have hfirst := h.within [.groupClose] (by simp)
  simp at hfirst

theorem token_iff {t : Token} (ho : t ≠ .groupOpen) (hc : t ≠ .groupClose) :
    Takes depth (t :: ts) ↔ Takes depth ts := by
  simp [takes_iff, forall_prefix_cons, ho, hc]

end Takes

variable {ts : List Token} {t : Token} {start depth i j : Nat}

theorem stretch_self (ts : List Token) (n : Nat) : stretch ts n n = [] := by
  simp [stretch]

theorem stretch_cons (ht : ts[start]? = some t) (h : start < j) :
    stretch ts start j = t :: stretch ts (start + 1) j := by
  obtain ⟨hlt, rfl⟩ := List.getElem?_eq_some_iff.1 ht
  have hlen : start < (ts.take j).length := by
    rw [List.length_take]
    omega
  rw [stretch, List.drop_eq_getElem_cons hlen, List.getElem_take, stretch]

namespace Reaches

/-- The bracket is the token at `start`, or it comes after that token. -/
theorem from_iff (ht : ts[start]? = some t) : Reaches ts start depth j ↔
    (t = .groupClose ∧ depth = 0 ∧ j = start) ∨
      (ts[j]? = some .groupClose ∧ start + 1 ≤ j ∧
        Takes depth (t :: stretch ts (start + 1) j)) := by
  constructor
  · rintro ⟨hc, hle, htakes⟩
    rcases Nat.eq_or_lt_of_le hle with rfl | hlt
    · rw [stretch_self, Takes.nil_iff] at htakes
      exact .inl ⟨Option.some.inj (ht.symm.trans hc), htakes, rfl⟩
    · rw [stretch_cons ht hlt] at htakes
      exact .inr ⟨hc, hlt, htakes⟩
  · rintro (⟨rfl, rfl, rfl⟩ | ⟨hc, hlt, htakes⟩)
    · exact ⟨ht, Nat.le_refl _, by rw [stretch_self, Takes.nil_iff]⟩
    · exact ⟨hc, Nat.le_of_lt hlt, by rwa [stretch_cons ht hlt]⟩

theorem open_iff (ht : ts[start]? = some .groupOpen) :
    Reaches ts start depth j ↔ Reaches ts (start + 1) (depth + 1) j := by
  simp [from_iff ht, reaches_iff, Takes.open_iff]

theorem close_iff (ht : ts[start]? = some .groupClose) :
    Reaches ts start (depth + 1) j ↔ Reaches ts (start + 1) depth j := by
  simp [from_iff ht, reaches_iff, Takes.close_iff]

theorem close_zero_iff (ht : ts[start]? = some .groupClose) :
    Reaches ts start 0 j ↔ j = start := by
  simp [from_iff ht, Takes.not_close]

theorem token_iff (ht : ts[start]? = some t) (ho : t ≠ .groupOpen) (hc : t ≠ .groupClose) :
    Reaches ts start depth j ↔ Reaches ts (start + 1) depth j := by
  simp [from_iff ht, reaches_iff, Takes.token_iff ho hc, hc]

end Reaches

theorem partners_iff : Partners ts i j ↔ ts[i]? = some .groupOpen ∧ Reaches ts (i + 1) 0 j := by
  constructor
  · rintro ⟨ho, hc, hlt, heven, hwithin⟩
    exact ⟨ho, hc, hlt, heven.symm, hwithin⟩
  · rintro ⟨ho, hc, hlt, heven, hwithin⟩
    exact ⟨ho, hc, hlt, heven.symm, hwithin⟩

/-- The opening bracket is the token at `start`, or it comes after that token. -/
theorem Partners.from_iff (ht : ts[start]? = some t) : (start ≤ i ∧ Partners ts i j) ↔
    (t = .groupOpen ∧ i = start ∧ Reaches ts (start + 1) 0 j) ∨
      (start + 1 ≤ i ∧ Partners ts i j) := by
  constructor
  · rintro ⟨hle, h⟩
    rcases Nat.eq_or_lt_of_le hle with rfl | hlt
    · obtain ⟨ho, hr⟩ := partners_iff.1 h
      exact .inl ⟨Option.some.inj (ht.symm.trans ho), rfl, hr⟩
    · exact .inr ⟨hlt, h⟩
  · rintro (⟨rfl, rfl, hr⟩ | ⟨hlt, h⟩)
    · exact ⟨Nat.le_refl _, partners_iff.2 ⟨ht, hr⟩⟩
    · exact ⟨Nat.le_of_lt hlt, h⟩

/-! ### The stack finds the partners -/

theorem exists_getElem?_cons {α : Type} {P : Nat → Prop} {a b : α} {l : List α} :
    (∃ k, (a :: l)[k]? = some b ∧ P k) ↔ (b = a ∧ P 0) ∨ ∃ k, l[k]? = some b ∧ P (k + 1) := by
  rw [← Nat.or_exists_add_one]
  simp [eq_comm]

/-- A free bracket is matched with the closing bracket that comes for it when those nearer have had
theirs; a bracket of the tokens with its partner. -/
theorem mem_pairsFrom_iff {free : List Nat} {us : List Token} (h : ts.drop start = us) :
    (i, j) ∈ pairsFrom start free us ↔
      (∃ k, free[k]? = some i ∧ Reaches ts start k j) ∨ (start ≤ i ∧ Partners ts i j) := by
  induction us generalizing start free with
  | nil =>
    have hlen : ts.length ≤ start := List.drop_eq_nil_iff.1 h
    have hnone : ∀ {k l}, start ≤ l → ¬Reaches ts l k j := by
      intro k l hl hr
      obtain ⟨hj, -⟩ := List.getElem?_eq_some_iff.1 hr.closing
      have hle := hr.after
      omega
    simp only [pairsFrom, List.not_mem_nil, false_iff, not_or, not_exists, not_and]
    refine ⟨fun k _ => hnone (Nat.le_refl _), fun hi hp => ?_⟩
    exact hnone (Nat.le_succ_of_le hi) (partners_iff.1 hp).2
  | cons t us ih =>
    have ht : ts[start]? = some t := by rw [← List.head?_drop, h, List.head?_cons]
    have hnext : ts.drop (start + 1) = us := by rw [← List.tail_drop, h, List.tail_cons]
    rw [Partners.from_iff ht]
    cases t with
    | groupOpen =>
      -- It becomes the nearest of the free brackets.
      rw [pairsFrom, ih hnext, exists_getElem?_cons]
      simp [Reaches.open_iff ht, or_left_comm, or_assoc]
    | groupClose =>
      cases free with
      | nil => simp [pairsFrom, ih hnext]
      | cons nearest others =>
        rw [pairsFrom, List.mem_cons, ih hnext, exists_getElem?_cons]
        simp [Reaches.close_iff ht, Reaches.close_zero_iff ht, or_assoc]
    | _ =>
      rw [pairsFrom_token (by simp) (by simp), ih hnext]
      simp [Reaches.token_iff ht]

theorem mem_pairs_iff : (i, j) ∈ pairs ts ↔ Partners ts i j := by
  have h : ts.drop 0 = ts := List.drop_zero
  rw [pairs, mem_pairsFrom_iff h]
  simp

/-! ### The scans mark the partners -/

def mark (qs : List (Nat × Nat)) : Token × Nat → Bool
  | (.groupOpen, n) => (qs.lookup n).isSome
  | (.groupClose, n) => closes qs n
  | _ => false

theorem mark_token (ho : t ≠ .groupOpen) (hc : t ≠ .groupClose) (qs : List (Nat × Nat)) (n : Nat) :
    mark qs (t, n) = false := by
  cases t <;> first | rfl | contradiction

theorem placed_eq_mark {qs : List (Nat × Nat)} {position : Nat} {free : List Nat}
    (h : Continues qs position free ts) (hfree : ∀ n ∈ free, n < position) :
    placed position free.length ts = (ts.zipIdx position).map fun t => (t, mark qs t) := by
  induction ts generalizing position free with
  | nil => rfl
  | cons t ts ih =>
    have hnext : ∀ n ∈ free, n < position + 1 := fun n hn => Nat.lt_succ_of_lt (hfree n hn)
    rw [List.zipIdx_cons, List.map_cons]
    cases t with
    | groupOpen =>
      have hmark : mark qs (.groupOpen, position) = decide (0 < freeClosers ts) := h.isSome_lookup
      rw [hmark, ← ih h.opened (List.forall_mem_cons.2 ⟨Nat.lt_succ_self _, hnext⟩)]
      rfl
    | groupClose =>
      cases free with
      | nil =>
        have hmark : mark qs (.groupClose, position) = false := closes_of_unmatched h
        rw [hmark, ← ih h.unmatched (by simp)]
        rfl
      | cons nearest others =>
        have hmem := Continues.mem_of_balanced (.nil : Balanced []) h
        have hmark : mark qs (.groupClose, position) = true := closes_of_mem hmem
        obtain ⟨hn, _⟩ := List.forall_mem_cons.1 hfree
        rw [hmark, ← ih (h.matched hn) (List.forall_mem_cons.1 hnext).2]
        rfl
    | _ =>
      rw [placed_token (by simp) (by simp), mark_token (by simp) (by simp),
        ih (h.token (by simp) (by simp)) hnext]

theorem marked_eq_placed (ts : List Token) :
    marked ts = (placed 0 0 ts).map (Prod.map Prod.fst id) := by
  rw [← placed_zero, ← List.zip_map_left, List.zipIdx_map_fst, marked]

theorem marked_iff {n : Nat} {flag : Bool} : (marked ts)[n]? = some (t, flag) ↔
    ts[n]? = some t ∧ mark (pairs ts) (t, n) = flag := by
  have hplaced := placed_eq_mark (continues_start ts) (by simp)
  rw [List.length_nil] at hplaced
  rw [marked_eq_placed, hplaced, List.map_map, List.getElem?_map, List.getElem?_zipIdx,
    Option.map_map, Option.map_eq_some_iff, Nat.zero_add]
  constructor
  · rintro ⟨u, hu, h⟩
    obtain ⟨rfl, hmark⟩ := Prod.mk.inj h
    exact ⟨hu, hmark⟩
  · rintro ⟨ht, rfl⟩
    exact ⟨t, ht, rfl⟩

theorem marked_open_iff : (marked ts)[i]? = some (.groupOpen, true) ↔ ∃ j, Partners ts i j := by
  have hpair : mark (pairs ts) (.groupOpen, i) = true ↔ ∃ j, Partners ts i j := by
    simp [mark, List.lookup_isSome_iff, mem_pairs_iff]
  rw [marked_iff, hpair, and_iff_right_iff_imp]
  rintro ⟨j, h⟩
  exact h.opening

theorem marked_close_iff : (marked ts)[j]? = some (.groupClose, true) ↔ ∃ i, Partners ts i j := by
  have hpair : mark (pairs ts) (.groupClose, j) = true ↔ ∃ i, Partners ts i j := by
    simp [mark, closes, mem_pairs_iff]
  rw [marked_iff, hpair, and_iff_right_iff_imp]
  rintro ⟨i, h⟩
  exact h.closing

theorem eq_bracket_of_marked {n : Nat} (h : (marked ts)[n]? = some (t, true)) :
    t = .groupOpen ∨ t = .groupClose := by
  by_cases ho : t = .groupOpen
  · exact .inl ho
  by_cases hc : t = .groupClose
  · exact .inr hc
  have hmark := (marked_iff.1 h).2
  rw [mark_token ho hc] at hmark
  cases hmark

theorem length_takers {opener closer : Token} (h : opener ≠ closer) (ts : List Token) :
    (Pairing.takers opener closer ts).2.length = ts.length := by
  induction ts with
  | nil => rfl
  | cons t ts ih =>
    by_cases hc : t = closer
    · rw [hc, takers_closer, List.length_cons, List.length_cons, ih]
    by_cases ho : t = opener
    · rw [ho, takers_opener h, List.length_cons, List.length_cons, ih]
    · rw [takers_token ho hc, List.length_cons, List.length_cons, ih]

theorem length_paired (ts : List Token) : (Pairing.paired ts).length = ts.length := by
  simp [Pairing.paired, Pairing.openers, Pairing.closers, length_takers]

/-! ### Marked and unmarked brackets -/

/-- More closing brackets are marked than opening ones, by those that take a free bracket. -/
theorem count_placed (position free : Nat) (ts : List Token) :
    ((placed position free ts).map (Prod.map Prod.fst id)).count (.groupClose, true) =
      ((placed position free ts).map (Prod.map Prod.fst id)).count (.groupOpen, true) +
        min free (freeClosers ts) := by
  induction ts generalizing position free with
  | nil => simp [placed]
  | cons t ts ih =>
    cases t with
    | groupOpen =>
      have h := ih (position + 1) (free + 1)
      simp only [placed, freeClosers_open, List.map_cons, Prod.map_apply, id_eq, List.count_cons, h,
        beq_iff_eq, Prod.mk.injEq, decide_eq_true_eq, reduceCtorEq, false_and, true_and, if_false]
      split <;> omega
    | groupClose =>
      have h := ih (position + 1) (free - 1)
      simp only [placed, freeClosers_close, List.map_cons, Prod.map_apply, id_eq, List.count_cons,
        h, beq_iff_eq, Prod.mk.injEq, decide_eq_true_eq, reduceCtorEq, false_and, true_and, if_false]
      split <;> omega
    | _ =>
      rw [placed_token (by simp) (by simp), freeClosers_token (by simp) (by simp)]
      simp [ih]

theorem count_marked (ts : List Token) :
    (marked ts).count (.groupOpen, true) = (marked ts).count (.groupClose, true) := by
  have h := count_placed 0 0 ts
  rw [Nat.zero_min, Nat.add_zero, ← marked_eq_placed] at h
  exact h.symm

/-- With as many free brackets as the tokens can take, every closing bracket is marked. -/
theorem marked_of_freeClosers_le {position free : Nat} {ts : List Token}
    (h : freeClosers ts ≤ free) {q : Piece.Placed} (hq : q ∈ placed position free ts)
    (hc : q.1.1 = .groupClose) : q.2 = true := by
  induction ts generalizing position free with
  | nil => cases hq
  | cons t ts ih =>
    cases t with
    | groupOpen =>
      rw [freeClosers_open] at h
      rcases List.mem_cons.1 hq with rfl | hq
      · cases hc
      · exact ih (by omega) hq
    | groupClose =>
      rw [freeClosers_close] at h
      rcases List.mem_cons.1 hq with rfl | hq
      · exact decide_eq_true (by omega)
      · exact ih (by omega) hq
    | _ =>
      rw [freeClosers_token (by simp) (by simp)] at h
      rcases List.mem_cons.1 hq with rfl | hq
      · cases hc
      · exact ih h hq

/-- Behind an unmarked opening bracket no closing bracket is unmarked. -/
theorem pairwise_placed (position free : Nat) (ts : List Token) :
    (placed position free ts).Pairwise fun a b =>
      ¬(a.1.1 = .groupOpen ∧ a.2 = false ∧ b.1.1 = .groupClose ∧ b.2 = false) := by
  induction ts generalizing position free with
  | nil => exact List.Pairwise.nil
  | cons t ts ih =>
    cases t with
    | groupOpen =>
      refine List.pairwise_cons.2 ⟨?_, ih _ _⟩
      rintro q hq ⟨-, hopen, hclose, hmark⟩
      have hzero : ¬0 < freeClosers ts := of_decide_eq_false hopen
      rw [marked_of_freeClosers_le (by omega) hq hclose] at hmark
      cases hmark
    | _ =>
      refine List.pairwise_cons.2 ⟨?_, ih _ _⟩
      rintro q - ⟨hopen, -⟩
      cases hopen

theorem unmarked_lt (hi : (marked ts)[i]? = some (.groupOpen, false))
    (hj : (marked ts)[j]? = some (.groupClose, false)) : j < i := by
  rw [marked_eq_placed, List.getElem?_map] at hi hj
  obtain ⟨a, ha, hi⟩ := Option.map_eq_some_iff.1 hi
  obtain ⟨b, hb, hj⟩ := Option.map_eq_some_iff.1 hj
  obtain ⟨hopen, hafalse⟩ := Prod.mk.inj hi
  obtain ⟨hclose, hbfalse⟩ := Prod.mk.inj hj
  obtain ⟨hilt, rfl⟩ := List.getElem?_eq_some_iff.1 ha
  obtain ⟨hjlt, rfl⟩ := List.getElem?_eq_some_iff.1 hb
  rcases Nat.lt_trichotomy i j with hlt | rfl | hlt
  · have hnot := List.pairwise_iff_getElem.1 (pairwise_placed 0 0 ts) i j hilt hjlt hlt
    exact absurd ⟨hopen, hafalse, hclose, hbfalse⟩ hnot
  · rw [hopen] at hclose
    cases hclose
  · exact hlt

/-- The marks are those of the partners: a bracket is marked if it has one, and nothing else is. So
opening and closing brackets are marked in equal number, and those closing brackets that are not
marked all come before those opening ones. The stack has the same partners. -/
theorem paired_partners (ts : List Token) :
    (Pairing.paired ts).length = ts.length ∧
      (∀ i, (marked ts)[i]? = some (.groupOpen, true) ↔ ∃ j, Partners ts i j) ∧
      (∀ j, (marked ts)[j]? = some (.groupClose, true) ↔ ∃ i, Partners ts i j) ∧
      (∀ (n : Nat) (t : Token), (marked ts)[n]? = some (t, true) →
        t = .groupOpen ∨ t = .groupClose) ∧
      (marked ts).count (.groupOpen, true) = (marked ts).count (.groupClose, true) ∧
      (∀ i j : Nat, (marked ts)[i]? = some (.groupOpen, false) →
        (marked ts)[j]? = some (.groupClose, false) → j < i) ∧
      ∀ i j, (i, j) ∈ pairs ts ↔ Partners ts i j :=
  ⟨length_paired ts, fun _ => marked_open_iff, fun _ => marked_close_iff,
    fun _ _ => eq_bracket_of_marked, count_marked ts, fun _ _ => unmarked_lt,
    fun _ _ => mem_pairs_iff⟩

-- The first bracket has no partner, and the last closing bracket goes to the nearest one left.
example : Pairing.paired (Token.ofStyle "][[a][b]".toList) =
    [false, false, true, false, true, true, false, true] := by
  decide

end RadioText.Matching
