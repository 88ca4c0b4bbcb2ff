import RadioText.Style.Parser

/-! Brackets matched from the left: every closing bracket takes the nearest opening bracket before
it that is still unmatched. `pairs` says so by position. A list is `Balanced` if this leaves no
bracket over; what stands between a bracket and its partner always is.

The parser has its flags from two scans instead. `placed` gives the same flags from the front, so
that those of a suffix depend on what is before it only by the number of opening brackets that are
still free. -/
namespace RadioText.Matching

def pairsFrom (position : Nat) (free : List Nat) : List Token → List (Nat × Nat)
  | [] => []
  | .groupOpen :: ts => pairsFrom (position + 1) (position :: free) ts
  | .groupClose :: ts =>
    match free with
    | [] => pairsFrom (position + 1) [] ts
    | nearest :: others => (nearest, position) :: pairsFrom (position + 1) others ts
  | _ :: ts => pairsFrom (position + 1) free ts

def pairs (ts : List Token) : List (Nat × Nat) := pairsFrom 0 [] ts

def inside (ps : List (Nat × Nat)) (n : Nat) : Bool := ps.any fun (a, b) => a < n && n < b

inductive Balanced : List Token → Prop
  | nil : Balanced []
  | token {t : Token} {ts : List Token} (ho : t ≠ .groupOpen) (hc : t ≠ .groupClose) :
    Balanced ts → Balanced (t :: ts)
  | pair {inner ts : List Token} :
    Balanced inner → Balanced ts → Balanced (.groupOpen :: (inner ++ .groupClose :: ts))

theorem takers_opener {opener closer : Token} (h : opener ≠ closer) (ts : List Token) :
    Pairing.takers opener closer (opener :: ts) =
      ((Pairing.takers opener closer ts).1 - 1,
        decide (0 < (Pairing.takers opener closer ts).1) :: (Pairing.takers opener closer ts).2) :=
  (if_neg h).trans (if_pos rfl)

theorem takers_closer {opener closer : Token} (ts : List Token) :
    Pairing.takers opener closer (closer :: ts) =
      ((Pairing.takers opener closer ts).1 + 1, false :: (Pairing.takers opener closer ts).2) :=
  if_pos rfl

theorem takers_token {opener closer t : Token} (ho : t ≠ opener) (hc : t ≠ closer)
    (ts : List Token) :
    Pairing.takers opener closer (t :: ts) =
      ((Pairing.takers opener closer ts).1, false :: (Pairing.takers opener closer ts).2) :=
  (if_neg hc).trans (if_neg ho)

theorem Balanced.tail {t : Token} {ts : List Token} (h : Balanced (t :: ts))
    (ho : t ≠ .groupOpen) : Balanced ts := by
  cases h with
  | token _ _ h => exact h
  | pair => exact absurd rfl ho

def freeClosers (ts : List Token) : Nat := (Pairing.takers .groupOpen .groupClose ts).1

@[simp] theorem freeClosers_nil : freeClosers [] = 0 := rfl

@[simp] theorem freeClosers_open (ts : List Token) :
    freeClosers (.groupOpen :: ts) = freeClosers ts - 1 := rfl

@[simp] theorem freeClosers_close (ts : List Token) :
    freeClosers (.groupClose :: ts) = freeClosers ts + 1 := rfl

theorem freeClosers_token {t : Token} (ho : t ≠ .groupOpen) (hc : t ≠ .groupClose)
    (ts : List Token) : freeClosers (t :: ts) = freeClosers ts := by
  rw [freeClosers, takers_token ho hc, freeClosers]

theorem Balanced.freeClosers_append {inner : List Token} (h : Balanced inner) (ts : List Token) :
    freeClosers (inner ++ ts) = freeClosers ts := by
  induction h generalizing ts with
  | nil => rfl
  | token ho hc _ ih => rw [List.cons_append, freeClosers_token ho hc, ih]
  | pair _ _ ihInner ih => simp [ihInner, ih]

/-- A closing bracket that is left over ends a balanced list. -/
theorem exists_balanced_of_freeClosers_pos (ts : List Token) (h : 0 < freeClosers ts) :
    ∃ inner rest, Balanced inner ∧ ts = inner ++ .groupClose :: rest := by
  match ts with
  | [] => simp at h
  | .groupClose :: rest => exact ⟨[], rest, .nil, rfl⟩
  | .groupOpen :: rest =>
    rw [freeClosers_open] at h
    obtain ⟨a, rest, ha, rfl⟩ := exists_balanced_of_freeClosers_pos rest (by omega)
    rw [ha.freeClosers_append, freeClosers_close] at h
    obtain ⟨b, rest, hb, rfl⟩ := exists_balanced_of_freeClosers_pos rest (by omega)
    exact ⟨.groupOpen :: (a ++ .groupClose :: b), rest, ha.pair hb, by simp⟩
  | .fieldOpen :: rest | .fieldClose :: rest | .pipe :: rest | .backslash :: rest
  | .escaped _ :: rest | .text _ :: rest =>
    obtain ⟨inner, after, hi, rfl⟩ := exists_balanced_of_freeClosers_pos rest h
    exact ⟨_ :: inner, after, .token (by simp) (by simp) hi, rfl⟩
termination_by ts.length
decreasing_by all_goals subst_vars; simp; try omega

/-- Tokens with their positions and with the flags of the brackets that have a partner, where
`free` opening brackets before them are still unmatched. -/
def placed (position free : Nat) : List Token → List Piece.Placed
  | [] => []
  | .groupOpen :: ts =>
    ((.groupOpen, position), decide (0 < freeClosers ts)) :: placed (position + 1) (free + 1) ts
  | .groupClose :: ts =>
    ((.groupClose, position), decide (0 < free)) :: placed (position + 1) (free - 1) ts
  | t :: ts => ((t, position), false) :: placed (position + 1) free ts

theorem placed_token {t : Token} (ho : t ≠ .groupOpen) (hc : t ≠ .groupClose)
    (position free : Nat) (ts : List Token) :
    placed position free (t :: ts) = ((t, position), false) :: placed (position + 1) free ts := by
  cases t <;> first | rfl | contradiction

def closersFrom (free : Nat) : List Token → List Bool
  | [] => []
  | .groupOpen :: ts => false :: closersFrom (free + 1) ts
  | .groupClose :: ts => decide (0 < free) :: closersFrom (free - 1) ts
  | _ :: ts => false :: closersFrom free ts

theorem takers_reverse (ts us : List Token) :
    (Pairing.takers .groupClose .groupOpen (ts.reverse ++ us)).2.reverse =
      (Pairing.takers .groupClose .groupOpen us).2.reverse ++
        closersFrom (Pairing.takers .groupClose .groupOpen us).1 ts := by
  induction ts generalizing us with
  | nil => simp [closersFrom]
  | cons t ts ih =>
    rw [List.reverse_cons, List.append_assoc, ih, List.singleton_append]
    cases t with
    | groupOpen => simp [closersFrom, takers_closer]
    | groupClose => simp [closersFrom, takers_opener]
    | _ => simp [closersFrom, takers_token]

theorem closers_eq (ts : List Token) : Pairing.closers ts = closersFrom 0 ts := by
  have h := takers_reverse ts []
  simpa [Pairing.closers, Pairing.takers] using h

theorem zip_eq_placed (position free : Nat) (ts : List Token) :
    (ts.zipIdx position).zip
      (List.zipWith (· || ·) (Pairing.openers ts) (closersFrom free ts)) =
      placed position free ts := by
  induction ts generalizing position free with
  | nil => rfl
  | cons t ts ih =>
    cases t with
    | groupOpen =>
      simp [placed, closersFrom, ← ih, Pairing.openers, takers_opener, freeClosers]
      rfl
    | groupClose => simp [placed, closersFrom, ← ih, Pairing.openers, takers_closer]
    | _ => simp [placed, closersFrom, ← ih, Pairing.openers, takers_token]

theorem placed_zero (ts : List Token) : ts.zipIdx.zip (Pairing.paired ts) = placed 0 0 ts := by
  rw [Pairing.paired, closers_eq, zip_eq_placed]

theorem pairsFrom_token {t : Token} (ho : t ≠ .groupOpen) (hc : t ≠ .groupClose)
    (position : Nat) (free : List Nat) (ts : List Token) :
    pairsFrom position free (t :: ts) = pairsFrom (position + 1) free ts := by
  cases t <;> first | rfl | contradiction

/-- A balanced list matches its brackets among themselves. -/
theorem Balanced.pairsFrom_append {inner : List Token} (h : Balanced inner) (position : Nat) :
    ∃ own : List (Nat × Nat),
      (∀ q ∈ own, position ≤ q.1 ∧ q.1 < q.2 ∧ q.2 < position + inner.length) ∧
      ∀ free ts, pairsFrom position free (inner ++ ts) =
        own ++ pairsFrom (position + inner.length) free ts := by
  induction h generalizing position with
  | nil => exact ⟨[], by simp, fun _ _ => rfl⟩
  | @token t ts ho hc _ ih =>
    obtain ⟨own, hown, heq⟩ := ih (position + 1)
    refine ⟨own, fun q hq => ?_, fun free ts => ?_⟩
    · obtain ⟨h₁, h₂, h₃⟩ := hown q hq
      simp only [List.length_cons]
      omega
    · rw [List.cons_append, pairsFrom_token ho hc, heq, List.length_cons, Nat.add_right_comm,
        Nat.add_assoc]
  | @pair a b _ _ iha ihb =>
    obtain ⟨ownA, hownA, heqA⟩ := iha (position + 1)
    obtain ⟨ownB, hownB, heqB⟩ := ihb (position + 1 + a.length + 1)
    have hlen : (Token.groupOpen :: (a ++ .groupClose :: b)).length = a.length + b.length + 2 := by
      simp only [List.length_append, List.length_cons]
      omega
    refine ⟨ownA ++ (position, position + 1 + a.length) :: ownB, fun q hq => ?_, fun free ts => ?_⟩
    · rw [hlen]
      rcases List.mem_append.1 hq with hq | hq
      · obtain ⟨h₁, h₂, h₃⟩ := hownA q hq
        omega
      rcases List.mem_cons.1 hq with rfl | hq
      · simp only
        omega
      · obtain ⟨h₁, h₂, h₃⟩ := hownB q hq
        omega
    · have hnext : position + 1 + a.length + 1 + b.length = position + (a.length + b.length + 2) := by
        omega
      rw [hlen]
      simp only [List.append_assoc, List.cons_append, pairsFrom, heqA, heqB, hnext]

/-- Brackets of a list are matched with each other, or with the nearest free brackets before it,
as many as the list has closing brackets left over. -/
theorem fst_of_mem_pairsFrom (position : Nat) (free : List Nat) (ts : List Token) :
    ∀ q ∈ pairsFrom position free ts, position ≤ q.1 ∨ q.1 ∈ free.take (freeClosers ts) := by
  induction ts generalizing position free with
  | nil => simp [pairsFrom]
  | cons t ts ih =>
    intro q hq
    cases t with
    | groupOpen =>
      rcases ih (position + 1) (position :: free) q hq with h | h
      · exact .inl (by omega)
      rw [freeClosers_open]
      cases hf : freeClosers ts with
      | zero => simp [hf] at h
      | succ n =>
        rw [hf, List.take_succ_cons, List.mem_cons] at h
        rcases h with h | h
        · exact .inl (Nat.le_of_eq h.symm)
        · exact .inr h
    | groupClose =>
      cases free with
      | nil =>
        rcases ih (position + 1) [] q hq with h | h
        · exact .inl (by omega)
        · simp at h
      | cons nearest others =>
        rw [freeClosers_close, List.take_succ_cons, List.mem_cons]
        rcases List.mem_cons.1 hq with rfl | hq
        · exact .inr (.inl rfl)
        rcases ih (position + 1) others q hq with h | h
        · exact .inl (by omega)
        · exact .inr (.inr h)
    | _ =>
      rw [freeClosers_token (by simp) (by simp)]
      rcases ih (position + 1) free q hq with h | h
      · exact .inl (by omega)
      · exact .inr h

theorem snd_of_mem_pairsFrom (position : Nat) (free : List Nat) (ts : List Token) :
    ∀ q ∈ pairsFrom position free ts, position ≤ q.2 := by
  induction ts generalizing position free with
  | nil => simp [pairsFrom]
  | cons t ts ih =>
    intro q hq
    have later {free' : List Nat} (hq : q ∈ pairsFrom (position + 1) free' ts) :
        position ≤ q.2 := by
      have hb := ih (position + 1) free' q hq
      omega
    cases t with
    | groupClose =>
      cases free with
      | nil => exact later hq
      | cons nearest others =>
        rcases List.mem_cons.1 hq with rfl | hq
        · exact Nat.le_refl _
        · exact later hq
    | _ => exact later hq

/-- `ps` are the pairs of a list that goes on with `ts` at `position`, where the brackets `free`
are still unmatched: the pairs closed before, and those still to come. -/
def Continues (ps : List (Nat × Nat)) (position : Nat) (free : List Nat) (ts : List Token) : Prop :=
  ∃ closed, ps = closed ++ pairsFrom position free ts ∧ ∀ q ∈ closed, q.1 < q.2 ∧ q.2 < position

theorem continues_start (ts : List Token) : Continues (pairs ts) 0 [] ts :=
  ⟨[], rfl, by simp⟩

namespace Continues

variable {ps : List (Nat × Nat)} {position : Nat} {free : List Nat}

theorem token {t : Token} {ts : List Token} (h : Continues ps position free (t :: ts))
    (ho : t ≠ .groupOpen) (hc : t ≠ .groupClose) : Continues ps (position + 1) free ts := by
  obtain ⟨closed, rfl, hclosed⟩ := h
  refine ⟨closed, by rw [pairsFrom_token ho hc], fun q hq => ?_⟩
  have hb := hclosed q hq
  omega

theorem opened {ts : List Token} (h : Continues ps position free (.groupOpen :: ts)) :
    Continues ps (position + 1) (position :: free) ts := by
  obtain ⟨closed, rfl, hclosed⟩ := h
  refine ⟨closed, rfl, fun q hq => ?_⟩
  have hb := hclosed q hq
  omega

theorem unmatched {ts : List Token} (h : Continues ps position [] (.groupClose :: ts)) :
    Continues ps (position + 1) [] ts := by
  obtain ⟨closed, rfl, hclosed⟩ := h
  refine ⟨closed, rfl, fun q hq => ?_⟩
  have hb := hclosed q hq
  omega

theorem matched {nearest : Nat} {ts : List Token}
    (h : Continues ps position (nearest :: free) (.groupClose :: ts)) (hn : nearest < position) :
    Continues ps (position + 1) free ts := by
  obtain ⟨closed, rfl, hclosed⟩ := h
  refine ⟨closed ++ [(nearest, position)], by simp [pairsFrom], fun q hq => ?_⟩
  rcases List.mem_append.1 hq with hq | hq
  · have hb := hclosed q hq
    omega
  · obtain rfl := List.mem_singleton.1 hq
    exact ⟨hn, Nat.lt_succ_self _⟩

theorem balanced {inner ts : List Token} (h : Continues ps position free (inner ++ ts))
    (hb : Balanced inner) : Continues ps (position + inner.length) free ts := by
  obtain ⟨closed, rfl, hclosed⟩ := h
  obtain ⟨own, hown, heq⟩ := hb.pairsFrom_append position
  refine ⟨closed ++ own, by rw [heq, List.append_assoc], fun q hq => ?_⟩
  rcases List.mem_append.1 hq with hq | hq
  · have hb := hclosed q hq
    omega
  · have hb := hown q hq
    omega

/-- What follows a bracket, a balanced list and the bracket's partner. -/
theorem pair {inner ts : List Token} (hb : Balanced inner)
    (h : Continues ps position free (.groupOpen :: (inner ++ .groupClose :: ts))) :
    Continues ps (position + 1 + inner.length + 1) free ts :=
  (h.opened.balanced hb).matched (by omega)

/-- A bracket before a balanced list and a closing bracket has that one as its partner. -/
theorem lookup_pair {inner ts : List Token} (hb : Balanced inner)
    (h : Continues ps position free (.groupOpen :: (inner ++ .groupClose :: ts))) :
    ps.lookup position = some (position + 1 + inner.length) := by
  obtain ⟨closed, rfl, hclosed⟩ := h
  obtain ⟨own, hown, heq⟩ := hb.pairsFrom_append (position + 1)
  have hfirst : (closed ++ own).lookup position = none := by
    rw [List.lookup_eq_none_iff]
    intro q hq
    have hne : q.1 ≠ position := by
      rcases List.mem_append.1 hq with hq | hq
      · have hb := hclosed q hq
        omega
      · have hb := hown q hq
        omega
    simpa using hne.symm
  rw [pairsFrom, heq, pairsFrom, ← List.append_assoc, List.lookup_append, hfirst]
  simp

/-- The nearest free bracket is the partner of a closing bracket behind a balanced list. -/
theorem mem_of_balanced {nearest : Nat} {inner ts : List Token} (hb : Balanced inner)
    (h : Continues ps position (nearest :: free) (inner ++ .groupClose :: ts)) :
    (nearest, position + inner.length) ∈ ps := by
  obtain ⟨closed, rfl, _⟩ := h
  obtain ⟨own, _, heq⟩ := hb.pairsFrom_append position
  rw [heq, pairsFrom]
  simp

/-- A closing bracket has no partner if no bracket is free. -/
theorem snd_ne_of_unmatched {ts : List Token} (h : Continues ps position [] (.groupClose :: ts)) :
    ∀ q ∈ ps, q.2 ≠ position := by
  obtain ⟨closed, rfl, hclosed⟩ := h
  intro q hq
  rcases List.mem_append.1 hq with hq | hq
  · have hb := hclosed q hq
    omega
  · have hb := snd_of_mem_pairsFrom (position + 1) [] ts q hq
    omega

/-- A bracket that no closing bracket after it is left for has no partner. -/
theorem lookup_opened {ts : List Token} (h : Continues ps position free (.groupOpen :: ts))
    (hf : freeClosers ts = 0) : ps.lookup position = none := by
  obtain ⟨closed, rfl, hclosed⟩ := h
  rw [List.lookup_eq_none_iff]
  intro q hq
  have hne : q.1 ≠ position := by
    rcases List.mem_append.1 hq with hq | hq
    · have hb := hclosed q hq
      omega
    · rcases fst_of_mem_pairsFrom (position + 1) (position :: free) ts q hq with hb | hb
      · omega
      · simp [hf] at hb
  simpa using hne.symm

/-- A bracket has a partner if a closing bracket after it is left for it. -/
theorem isSome_lookup {ts : List Token} (h : Continues ps position free (.groupOpen :: ts)) :
    (ps.lookup position).isSome = decide (0 < freeClosers ts) := by
  by_cases hf : freeClosers ts = 0
  · simp [hf, h.lookup_opened hf]
  · have hpos := Nat.pos_of_ne_zero hf
    obtain ⟨inner, rest, hb, rfl⟩ := exists_balanced_of_freeClosers_pos ts hpos
    rw [h.lookup_pair hb, decide_eq_true hpos]
    rfl

/-- A token is outside every pair if no free bracket before it is matched after it. -/
theorem not_inside {t : Token} {ts : List Token} (h : Continues ps position free (t :: ts))
    (ho : t ≠ .groupOpen) (hc : t ≠ .groupClose) (hf : free = [] ∨ freeClosers ts = 0) :
    inside ps position = false := by
  obtain ⟨closed, rfl, hclosed⟩ := h
  rw [inside, List.any_eq_false]
  intro q hq
  have hout : ¬(q.1 < position ∧ position < q.2) := by
    rcases List.mem_append.1 hq with hq | hq
    · have hb := hclosed q hq
      omega
    · rw [pairsFrom_token ho hc] at hq
      rcases fst_of_mem_pairsFrom _ free ts q hq with hb | hb
      · omega
      · rcases hf with hf | hf <;> simp [hf] at hb
  simpa using hout

end Continues

theorem inside_of_lookup {ps : List (Nat × Nat)} {a b n : Nat} (h : ps.lookup a = some b)
    (ha : a < n) (hb : n < b) : inside ps n = true := by
  obtain ⟨l, r, rfl, _⟩ := List.lookup_eq_some_iff.1 h
  simp [inside, ha, hb]

end RadioText.Matching
