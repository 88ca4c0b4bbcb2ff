import RadioText.Proofs.Style.Grammar

/-! The roles of tokens, derived from the matched brackets and without the parser's flags. Whether a
pipe is inside a pair is known from the brackets around it, and by the parser from the number of
pairs that it has open; `Roles` has both. -/
namespace RadioText.Grammar
open Matching Piece

def closes (qs : List (Nat × Nat)) (n : Nat) : Bool := qs.any (·.2 = n)

/-- Tokens with their positions, and their pieces. `qs` are the matched brackets, and `depth` pairs
are open where the tokens begin. -/
inductive Roles (qs : List (Nat × Nat)) : Nat → List (Token × Nat) → List Piece → Prop
  | nil : Roles qs 0 [] []
  | text {depth : Nat} {t : Token} (n : Nat) (ho : t ≠ .groupOpen) (hc : t ≠ .groupClose)
    (hp : t ≠ .pipe) {ts : List (Token × Nat)} {ps : List Piece} :
    Roles qs depth ts ps → Roles qs depth ((t, n) :: ts) (.text t.literal :: ps)
  | reference {depth : Nat} {x : Token} {c : Char} (n : Nat) (hx : oneChar? x = some c)
    {ts : List (Token × Nat)} {ps : List Piece} :
    Roles qs depth ts ps →
      Roles qs depth ((.fieldOpen, n) :: (x, n + 1) :: (.fieldClose, n + 2) :: ts)
        (Piece.reference c :: ps)
  | paired {depth n : Nat} (hn : (qs.lookup n).isSome) {ts : List (Token × Nat)}
    {ps : List Piece} :
    Roles qs (depth + 1) ts ps →
      Roles qs depth ((.groupOpen, n) :: ts) (.opening n true :: ps)
  | opened {n : Nat} (hn : qs.lookup n = none) {ts : List (Token × Nat)} {ps : List Piece} :
    Roles qs 0 ts ps → Roles qs 0 ((.groupOpen, n) :: ts) (.opening n false :: ps)
  | closing {depth n : Nat} (hn : closes qs n = true) {ts : List (Token × Nat)}
    {ps : List Piece} :
    Roles qs depth ts ps →
      Roles qs (depth + 1) ((.groupClose, n) :: ts) (.closing n :: ps)
  | unmatched {n : Nat} (hn : closes qs n = false) {ts : List (Token × Nat)} {ps : List Piece} :
    Roles qs 0 ts ps → Roles qs 0 ((.groupClose, n) :: ts) (.text [']'] :: ps)
  | innerPipe {depth n : Nat} (hn : inside qs n = true) {ts : List (Token × Nat)}
    {ps : List Piece} :
    Roles qs (depth + 1) ts ps → Roles qs (depth + 1) ((.pipe, n) :: ts) (.pipe :: ps)
  | pipe {n : Nat} (hn : inside qs n = false) {ts : List (Token × Nat)} {ps : List Piece} :
    Roles qs 0 ts ps → Roles qs 0 ((.pipe, n) :: ts) (.pipe :: ps)

theorem literal_of_oneChar? {x : Token} {c : Char} (h : oneChar? x = some c) :
    x.literal = [c] := by
  match x with
  | .text [d] | .escaped d =>
    cases h
    rfl

theorem closes_of_mem {qs : List (Nat × Nat)} {n m : Nat} (h : (n, m) ∈ qs) :
    closes qs m = true :=
  List.any_eq_true.2 ⟨_, h, by simp⟩

theorem closes_of_unmatched {qs : List (Nat × Nat)} {n : Nat} {ts : List Token}
    (h : Continues qs n [] (.groupClose :: ts)) : closes qs n = false := by
  simpa [closes] using fun a b hq => h.snd_ne_of_unmatched (a, b) hq

theorem inside_of_mem {qs : List (Nat × Nat)} {a b n : Nat} (h : (a, b) ∈ qs) (ha : a < n)
    (hb : n < b) : inside qs n = true :=
  List.any_eq_true.2 ⟨_, h, by simp [ha, hb]⟩

/-- As many pairs are open as there are free brackets in front that are still matched. -/
theorem roles_placed {qs : List (Nat × Nat)} (ts : List Token) {position : Nat} {free : List Nat}
    (h : Continues qs position free ts) (hfree : ∀ n ∈ free, n < position) :
    Roles qs (min free.length (freeClosers ts)) (ts.zipIdx position)
      (ofPlaced (placed position free.length ts)) := by
  have hnext : ∀ n ∈ free, n < position + 1 := fun n hn => Nat.lt_succ_of_lt (hfree n hn)
  match ts with
  | [] =>
    rw [freeClosers_nil, Nat.min_zero]
    exact .nil
  | .groupOpen :: ts =>
    have ih := roles_placed ts h.opened (List.forall_mem_cons.2 ⟨Nat.lt_succ_self _, hnext⟩)
    rw [List.length_cons] at ih
    rw [List.zipIdx_cons, placed, ofPlaced_single _ _ (by simp), single, freeClosers_open]
    cases hc : freeClosers ts with
    | zero =>
      rw [hc, Nat.min_zero] at ih
      simpa using Roles.opened (h.lookup_opened hc) ih
    | succ k =>
      rw [hc, Nat.add_min_add_right] at ih
      have hpos : 0 < freeClosers ts := by omega
      obtain ⟨inner, rest, hb, rfl⟩ := exists_balanced_of_freeClosers_pos ts hpos
      simpa using Roles.paired (by simp [h.lookup_pair hb]) ih
  | .groupClose :: ts =>
    rw [List.zipIdx_cons, placed, ofPlaced_single _ _ (by simp), freeClosers_close]
    cases free with
    | nil =>
      have ih := roles_placed ts h.unmatched (by simp)
      simpa [single] using Roles.unmatched (closes_of_unmatched h) (by simpa using ih)
    | cons nearest others =>
      obtain ⟨hn, _⟩ := List.forall_mem_cons.1 hfree
      have ih := roles_placed ts (h.matched hn) (List.forall_mem_cons.1 hnext).2
      have hmem := Continues.mem_of_balanced (.nil : Balanced []) h
      rw [List.length_cons, Nat.add_min_add_right]
      simpa [single] using Roles.closing (closes_of_mem hmem) ih
  | .pipe :: ts =>
    have ih := roles_placed ts (h.token (by simp) (by simp)) hnext
    rw [List.zipIdx_cons, placed, ofPlaced_single _ _ (by simp), single, freeClosers_token]
    by_cases hout : free = [] ∨ freeClosers ts = 0
    · have hzero : min free.length (freeClosers ts) = 0 := by
        rcases hout with rfl | hc
        · simp
        · simp [hc]
      rw [hzero] at ih ⊢
      exact .pipe (h.not_inside (by simp) (by simp) hout) ih
    · obtain ⟨hf, hc⟩ := not_or.1 hout
      obtain ⟨nearest, others, rfl⟩ := List.exists_cons_of_ne_nil hf
      obtain ⟨inner, rest, hb, rfl⟩ :=
        exists_balanced_of_freeClosers_pos ts (Nat.pos_of_ne_zero hc)
      have hstep := h.token (by simp) (by simp)
      have hin : inside qs position = true :=
        inside_of_mem (hstep.mem_of_balanced hb) (hfree nearest (by simp)) (by omega)
      rw [hb.freeClosers_append, freeClosers_close, List.length_cons, Nat.add_min_add_right] at ih ⊢
      exact .innerPipe hin ih
    all_goals simp
  | .fieldOpen :: ts =>
    have hstep := h.token (by simp) (by simp)
    cases hletter : letter? (ts.zipIdx (position + 1)) with
    | none =>
      have ih := roles_placed ts hstep hnext
      rw [List.zipIdx_cons, placed,
        ofPlaced_single _ _ fun _ => by rw [letterAhead?_placed, hletter], freeClosers_token]
      · exact .text position (by simp) (by simp) (by simp) ih
      all_goals simp
    | some c =>
      obtain ⟨x, ts, rfl, hx⟩ := letter?_eq_some hletter
      obtain ⟨hxo, hxc, _⟩ := oneChar?_ne_bracket hx
      have ih := roles_placed ts ((hstep.token hxo hxc).token (by simp) (by simp))
        fun n hn => Nat.lt_add_right 2 (hnext n hn)
      rw [List.zipIdx_cons, List.zipIdx_cons, List.zipIdx_cons, ofPlaced_reference_tokens hx,
        freeClosers_token (by simp) (by simp), freeClosers_token hxo hxc,
        freeClosers_token (by simp) (by simp)]
      exact .reference position hx ih
  | .fieldClose :: ts | .backslash :: ts | .escaped _ :: ts | .text _ :: ts =>
    have ih := roles_placed ts (h.token (by simp) (by simp)) hnext
    rw [List.zipIdx_cons, placed_token (by simp) (by simp), ofPlaced_single _ _ (by simp),
      single_text (by simp) (by simp) (by simp), freeClosers_token (by simp) (by simp)]
    exact .text position (by simp) (by simp) (by simp) ih
termination_by ts.length

theorem roles_ofTokens (ts : List Token) : Roles (pairs ts) 0 ts.zipIdx (ofTokens ts) := by
  have h := roles_placed ts (continues_start ts) (by simp)
  rw [List.length_nil, Nat.zero_min] at h
  rwa [ofTokens, placed_zero]

end RadioText.Grammar

namespace RadioText

def Piece.depthAfter (depth : Nat) : Piece → Nat
  | .opening _ true => depth + 1
  | .closing _ => depth - 1
  | _ => depth

theorem Piece.depthAfter_reference (depth : Nat) (c : Char) :
    (reference c).depthAfter depth = depth := by
  rw [reference]
  cases Field.ofCode? c <;> rfl

theorem Parser.pairedDepth_step (p : Parser) (q : Piece) :
    (p.step q).pairedDepth = q.depthAfter p.pairedDepth := by
  cases q with
  | text | field => rfl
  | opening i paired => cases paired <;> rfl
  | closing i =>
    rw [step]
    split <;> rfl
  | pipe =>
    rw [step]
    split <;> rfl

/-- Inside a pair a pipe is text. -/
theorem Parser.step_innerPipe {p : Parser} (hp : 0 < p.pairedDepth) :
    p.step .pipe = p.step (.text ['|']) := by
  simp [step, Nat.ne_of_gt hp]

theorem Parser.step_pipe {p : Parser} (hp : p.pairedDepth = 0) : p.step .pipe = p.finish := by
  simp [step, hp]

end RadioText
