import RadioText.Proofs.Style.Canonical
import RadioText.Proofs.Style.RoundTrip
import RadioText.Proofs.Style.Roles

/-! Literals that end in a backslash. In a style a backslash joins a control character behind it, so
a literal can end in one only where the style itself ends. The parser has then closed no group
since: that literal is in the group it is reading, and no other one ends like it. -/
namespace RadioText
open Token Piece Matching Grammar

namespace Token

/-- Tokens that stand in a style: each says something, and only a backslash of its own ends in a
backslash; what follows that one is plain. -/
inductive Lexed : List Token → Prop
  | nil : Lexed []
  | token {t : Token} {ts : List Token} (hne : t.literal ≠ [])
    (hlast : t.literal.getLast? ≠ some '\\') : Lexed ts → Lexed (t :: ts)
  | backslash {ts : List Token} (hnext : ∀ t rest, ts = t :: rest → t.controlChar? = none) :
    Lexed ts → Lexed (.backslash :: ts)

theorem Lexed.tail {t : Token} {ts : List Token} (h : Lexed (t :: ts)) : Lexed ts := by
  cases h <;> assumption

theorem Lexed.literal {t : Token} {ts : List Token} (h : Lexed (t :: ts)) :
    t.literal ≠ [] ∧ (t.literal.getLast? = some '\\' ↔ t = .backslash) := by
  cases h with
  | token hne hlast _ =>
    refine ⟨hne, fun h => absurd h hlast, ?_⟩
    rintro rfl
    exact absurd rfl hlast
  | backslash => exact ⟨by simp [Token.literal], by simp [Token.literal]⟩

theorem Lexed.ne_backslash {before t : Token} {ts : List Token} (h : Lexed (before :: t :: ts))
    (ht : t.controlChar? ≠ none) : before ≠ .backslash := by
  rintro rfl
  cases h with
  | token _ hlast _ => exact hlast rfl
  | backslash hnext _ => exact ht (hnext t ts rfl)

theorem lexed_structural {t : Token} {ts : List Token} (ht : t.controlChar? ≠ none)
    (h : Lexed ts) : Lexed (t :: ts) := by
  cases t with
  | fieldOpen | fieldClose | groupOpen | groupClose | pipe =>
    exact .token (by simp [Token.literal]) (by simp [Token.literal]) h
  | escaped | backslash | text => exact absurd rfl ht

theorem Canonical.lexed {ts : List Token} (h : Canonical ts) : Lexed ts := by
  induction ts with
  | nil => exact .nil
  | cons t ts ih =>
    obtain ⟨ht, hnext, hts⟩ := (Canonical.cons_iff t ts).1 h
    have hrest := ih hts
    cases t with
    | fieldOpen | fieldClose | groupOpen | groupClose | pipe =>
      exact lexed_structural (by simp [controlChar?]) hrest
    | escaped c =>
      have hc : c ≠ '\\' := by
        rintro rfl
        exact absurd ht (by simp [WellSpelled, controls])
      exact .token (by simp [Token.literal]) (by simpa [Token.literal] using hc) hrest
    | backslash =>
      refine .backslash (fun u rest heq => ?_) hrest
      exact (controlChar?_eq_none_iff u).2 (hnext u (by simp [heq]))
    | text t =>
      refine .token ht.1 (fun hlast => ?_) hrest
      exact (ht.2 _ (List.mem_of_getLast? hlast)).2 rfl

theorem lexed_ofStyle (s : Text) : Lexed (ofStyle s) := (canonical_ofStyle s).lexed

end Token

def Group.Unslashed (g : Group) : Prop := ∀ s ∈ g, ∀ t, s.Holds t → t.getLast? ≠ some '\\'

namespace Draft

theorem unslashed_settled {d : Draft} (h : Group.Unslashed d.segments)
    (hr : d.run.head? ≠ some '\\') : Group.Unslashed d.settled := by
  rw [settled]
  split
  · exact h
  · rintro s hs t ht
    rcases List.mem_cons.1 hs with rfl | hs
    · cases ht
      rwa [List.getLast?_reverse]
    · exact h s hs t ht

theorem unslashed_group {d : Draft} (h : Group.Unslashed d.segments)
    (hr : d.run.head? ≠ some '\\') : Group.Unslashed d.group := by
  intro s hs
  exact unslashed_settled h hr s (List.mem_reverse.1 hs)

/-- A subgroup whose literals are all right, behind segments that are. -/
theorem unslashed_add {d : Draft} (h : Group.Unslashed d.segments)
    (hr : d.run.head? ≠ some '\\') {s : Segment} (hs : ∀ t, s.Holds t → t.getLast? ≠ some '\\') :
    Group.Unslashed (d.add s).segments :=
  List.forall_mem_cons.2 ⟨hs, unslashed_settled h hr⟩

end Draft

namespace Parser

structure Unslashed (p : Parser) : Prop where
  groups : ∀ g ∈ p.groups, g.Unslashed
  current : Group.Unslashed p.current.segments
  enclosing : ∀ e ∈ p.enclosing,
    Group.Unslashed e.parent.segments ∧ e.parent.run.head? ≠ some '\\'

theorem unslashed_subgroup {g : Group} (h : g.Unslashed) :
    ∀ t, (Segment.subgroup g).Holds t → t.getLast? ≠ some '\\' := by
  rintro t (_ | ⟨hs, ht⟩)
  exact h _ hs t ht

theorem unslashed_unwind {d : Draft} {enclosing : List Enclosing}
    (hd : Group.Unslashed d.segments) (hr : d.run.head? ≠ some '\\')
    (he : ∀ e ∈ enclosing, Group.Unslashed e.parent.segments ∧ e.parent.run.head? ≠ some '\\') :
    (unwind d enclosing).group.Unslashed := by
  induction enclosing generalizing d with
  | nil => exact Draft.unslashed_group hd hr
  | cons e rest ih =>
    obtain ⟨⟨hparent, hrun⟩, hrest⟩ := List.forall_mem_cons.1 he
    have hsub := unslashed_subgroup (Draft.unslashed_group hd hr)
    exact ih (Draft.unslashed_add hparent hrun hsub) (by simp [Draft.add]) hrest

theorem Unslashed.finish {p : Parser} (h : p.Unslashed) (hr : p.current.run.head? ≠ some '\\') :
    p.finish.Unslashed where
  groups := by
    have hlast := unslashed_unwind h.current hr h.enclosing
    rw [Parser.finish]
    simp only
    split
    · exact h.groups
    · exact List.forall_mem_cons.2 ⟨hlast, h.groups⟩
  current := by simp [Parser.finish, Group.Unslashed]
  enclosing := by simp [Parser.finish]

theorem Unslashed.step {p : Parser} (h : p.Unslashed) (hr : p.current.run.head? ≠ some '\\')
    (q : Piece) : (p.step q).Unslashed := by
  cases q with
  | text t => exact ⟨h.groups, h.current, h.enclosing⟩
  | field k => exact ⟨h.groups, Draft.unslashed_add h.current hr (by rintro t ⟨⟩), h.enclosing⟩
  | opening i paired =>
    exact ⟨h.groups, by simp [Parser.step, Group.Unslashed],
      List.forall_mem_cons.2 ⟨⟨h.current, hr⟩, h.enclosing⟩⟩
  | closing i =>
    have hsub := unslashed_subgroup (Draft.unslashed_group h.current hr)
    rw [Parser.step]
    split
    · exact ⟨h.groups, h.current, h.enclosing⟩
    · rename_i e rest heq
      have he := h.enclosing
      rw [heq, List.forall_mem_cons] at he
      exact ⟨h.groups, Draft.unslashed_add he.1.1 he.1.2 hsub, he.2⟩
  | pipe =>
    rw [Parser.step]
    split
    · exact h.finish hr
    · exact ⟨h.groups, h.current, h.enclosing⟩

/-- The literal being read ends in a backslash only behind a text that does. -/
theorem head?_run_step {p : Parser} (hr : p.current.run.head? ≠ some '\\') {q : Piece}
    (hq : ∀ t, q = .text t → t.getLast? ≠ some '\\') :
    (p.step q).current.run.head? ≠ some '\\' := by
  cases q with
  | text t =>
    have ht := hq t rfl
    cases hl : t.getLast? <;> simp_all [Parser.step, Draft.text]
  | field k => simp [Parser.step, Draft.add]
  | opening i paired => simp [Parser.step]
  | closing i =>
    rw [Parser.step]
    split
    · exact hr
    · simp [Draft.add]
  | pipe =>
    rw [Parser.step]
    split
    · simp [Parser.finish]
    · simp [Draft.text]

end Parser

theorem Piece.reference_text {c : Char} {t : Text} (h : reference c = .text t) :
    t = ['{', c, '}'] := by
  rw [reference] at h
  cases hk : Field.ofCode? c with
  | none =>
    rw [hk] at h
    cases h
    rfl
  | some k =>
    rw [hk] at h
    cases h

theorem Parser.Unslashed.consume_text {p : Parser} (hu : p.Unslashed) {before t : Token}
    {ts : List Token} (hl : Lexed (before :: t :: ts)) :
    (p.step (.text t.literal)).Unslashed ∧
      ((p.step (.text t.literal)).current.run.head? = some '\\' ↔ t = .backslash) := by
  obtain ⟨hne, hlast⟩ := hl.tail.literal
  refine ⟨⟨hu.groups, hu.current, hu.enclosing⟩, ?_⟩
  have hhead : (p.step (.text t.literal)).current.run.head? = t.literal.getLast? := by
    have hsome : t.literal.getLast?.isSome = true := List.getLast?_isSome.2 hne
    simp [Parser.step, Draft.text, List.head?_append, Option.or_of_isSome hsome]
  rw [hhead, hlast]

/-- A structural token ends the literal in front of it, which does not end in a backslash. -/
theorem Parser.Unslashed.consume_structural {p : Parser} (hu : p.Unslashed) {before t : Token}
    {ts : List Token} (hl : Lexed (before :: t :: ts))
    (hr : p.current.run.head? = some '\\' ↔ before = .backslash) (ht : t.controlChar? ≠ none)
    (q : Piece) (hq : ∀ u, q = .text u → u.getLast? ≠ some '\\') :
    (p.step q).Unslashed ∧ ((p.step q).current.run.head? = some '\\' ↔ t = .backslash) := by
  have hrun : p.current.run.head? ≠ some '\\' := fun h => hl.ne_backslash ht (hr.1 h)
  refine ⟨hu.step hrun q, fun h => absurd h (Parser.head?_run_step hrun hq), ?_⟩
  rintro rfl
  exact absurd rfl ht

/-- The literal that the parser is reading ends in a backslash if the last token is one, and no
other literal does. `before` is the token in front. -/
theorem Grammar.Roles.unslashed_foldl {qs : List (Nat × Nat)} {depth : Nat}
    {ts : List (Token × Nat)} {ps : List Piece} (h : Roles qs depth ts ps) {before : Token}
    (hl : Lexed (before :: ts.map Prod.fst)) {p : Parser} (hu : p.Unslashed)
    (hr : p.current.run.head? = some '\\' ↔ before = .backslash) :
    (ps.foldl Parser.step p).Unslashed ∧
      ((ps.foldl Parser.step p).current.run.head? = some '\\' ↔
        (ts.map Prod.fst).getLast?.getD before = .backslash) := by
  induction h generalizing before p with
  | nil => exact ⟨hu, hr⟩
  | text n ho hc hp _ ih =>
    obtain ⟨hu, hr⟩ := hu.consume_text hl
    rw [List.map_cons, List.getLast?_cons]
    exact ih hl.tail hu hr
  | @reference _ x c n hx ts ps _ ih =>
    have hq : ∀ u, Piece.reference c = .text u → u.getLast? ≠ some '\\' := by
      intro u h
      simp [reference_text h]
    obtain ⟨hu, hr⟩ := hu.consume_structural hl hr (by simp [controlChar?]) _ hq
    have hclose : (p.step (Piece.reference c)).current.run.head? = some '\\' ↔
        Token.fieldClose = .backslash := by
      rw [hr]
      simp
    simp only [List.map_cons, List.getLast?_cons]
    exact ih hl.tail.tail.tail hu hclose
  | unmatched hn _ ih =>
    obtain ⟨hu, hr⟩ := hu.consume_text hl
    rw [List.map_cons, List.getLast?_cons]
    exact ih hl.tail hu hr
  | paired | opened | closing | innerPipe | pipe =>
    rename_i ih
    have hnext := hu.consume_structural hl hr (by simp [controlChar?])
    rw [List.map_cons, List.getLast?_cons]
    exact ih hl.tail (hnext _ (by simp)).1 (hnext _ (by simp)).2

end RadioText
