import RadioText.Style.Token

/-! One character put in front of a style, case by case, and what the first token says about the
first character: it is structural exactly if the character is a control character. -/
namespace RadioText.Token

theorem controlChar?_of_control? {c : Char} {t : Token} (h : control? c = some t) :
    t.controlChar? = some c := by
  unfold control? at h
  split at h <;> cases h <;> rfl

theorem push_control {c : Char} {t : Token} (h : control? c = some t) (ts : List Token) :
    push c ts = t :: ts := by
  simp [push, h]

theorem push_backslash_structural {c : Char} {t : Token} (h : t.controlChar? = some c)
    (ts : List Token) : push '\\' (t :: ts) = escaped c :: ts := by
  simp [push, control?, h]

theorem push_backslash_plain {t : Token} (h : t.controlChar? = none) (ts : List Token) :
    push '\\' (t :: ts) = backslash :: t :: ts := by
  simp [push, control?, h]

theorem push_text {c : Char} (hc : control? c = none) (hs : c ≠ '\\') (r : Text)
    (ts : List Token) : push c (text r :: ts) = text (c :: r) :: ts := by
  simp [push, hc, hs]

theorem push_char {c : Char} (hc : control? c = none) (hs : c ≠ '\\') {ts : List Token}
    (ht : ∀ r rest, ts ≠ text r :: rest) : push c ts = text [c] :: ts := by
  match ts with
  | .text r :: rest => exact absurd rfl (ht r rest)
  | [] | .fieldOpen :: _ | .fieldClose :: _ | .groupOpen :: _ | .groupClose :: _ | .pipe :: _
  | .escaped _ :: _ | .backslash :: _ => simp [push, hc, hs]

theorem isPlain_iff (c : Char) : isPlain c = true ↔ control? c = none ∧ c ≠ '\\' := by
  simp [isPlain]

inductive Pushed (c : Char) : List Token → List Token → Prop
  | control {t : Token} {ts : List Token} (hc : control? c = some t) : Pushed c ts (t :: ts)
  | escape {t : Token} {d : Char} {ts : List Token} (hc : c = '\\')
    (ht : t.controlChar? = some d) : Pushed c (t :: ts) (escaped d :: ts)
  | backslash {ts : List Token} (hc : c = '\\')
    (hts : ∀ t ∈ ts.head?, t.controlChar? = none) : Pushed c ts (backslash :: ts)
  | joined {r : Text} {ts : List Token} (hc : isPlain c = true) :
    Pushed c (text r :: ts) (text (c :: r) :: ts)
  | started {ts : List Token} (hc : isPlain c = true) (hts : ∀ r rest, ts ≠ text r :: rest) :
    Pushed c ts (text [c] :: ts)

theorem pushed (c : Char) (ts : List Token) : Pushed c ts (push c ts) := by
  cases hc : control? c with
  | some t =>
    rw [push_control hc]
    exact .control hc
  | none =>
    by_cases hb : c = '\\'
    · subst hb
      cases ts with
      | nil => exact .backslash rfl (by simp)
      | cons t ts =>
        cases ht : t.controlChar? with
        | none =>
          rw [push_backslash_plain ht]
          exact .backslash rfl (by simpa using ht)
        | some d =>
          rw [push_backslash_structural ht]
          exact .escape rfl ht
    · have hplain : isPlain c = true := (isPlain_iff c).2 ⟨hc, hb⟩
      by_cases hts : ∃ r rest, ts = text r :: rest
      · obtain ⟨r, rest, rfl⟩ := hts
        rw [push_text hc hb]
        exact .joined hplain
      · have hno : ∀ r rest, ts ≠ text r :: rest := fun r rest heq => hts ⟨r, rest, heq⟩
        rw [push_char hc hb hno]
        exact .started hplain hno

theorem ofStyle_cons (c : Char) (s : Text) : ofStyle (c :: s) = push c (ofStyle s) := rfl

theorem pushed_ofStyle (c : Char) (s : Text) : Pushed c (ofStyle s) (ofStyle (c :: s)) :=
  pushed c (ofStyle s)

theorem Pushed.ne_text {c : Char} {ts us : List Token} (h : Pushed c ts us)
    (hc : isPlain c = false) (r : Text) (rest : List Token) : us ≠ text r :: rest := by
  cases h with
  | control ht =>
    rintro ⟨⟩
    cases controlChar?_of_control? ht
  | escape | backslash => simp
  | joined hplain | started hplain => simp [hc] at hplain

/-- A style that begins with no plain character has no text for its first token. -/
theorem ofStyle_ne_text {s : Text} (h : ∀ c ∈ s.head?, isPlain c = false) (r : Text)
    (rest : List Token) : ofStyle s ≠ text r :: rest := by
  cases s with
  | nil => simp [ofStyle]
  | cons c s => exact (pushed_ofStyle c s).ne_text (h c rfl) r rest

/-- Plain characters are one token, as long as no text is behind them. -/
theorem ofStyle_plain {t s : Text} (ht : t ≠ []) (hp : ∀ c ∈ t, isPlain c = true)
    (hs : ∀ r rest, ofStyle s ≠ text r :: rest) : ofStyle (t ++ s) = text t :: ofStyle s := by
  induction t with
  | nil => exact absurd rfl ht
  | cons c t ih =>
    obtain ⟨hc, hp⟩ := List.forall_mem_cons.1 hp
    obtain ⟨hcontrol, hslash⟩ := (isPlain_iff c).1 hc
    rw [List.cons_append, ofStyle_cons]
    cases t with
    | nil => exact push_char hcontrol hslash hs
    | cons d t => rw [ih (by simp) hp, push_text hcontrol hslash]

def beginsControl : Text → Bool
  | [] => false
  | c :: _ => (control? c).isSome

theorem ofStyle_of_beginsControl {s : Text} (h : beginsControl s = true) :
    ∃ c t ts, ofStyle s = t :: ts ∧ t.controlChar? = some c := by
  cases s with
  | nil => simp [beginsControl] at h
  | cons c s =>
    obtain ⟨t, ht⟩ := Option.isSome_iff_exists.1 h
    exact ⟨c, t, ofStyle s, push_control ht _, controlChar?_of_control? ht⟩

theorem Pushed.exists_head {c : Char} {ts us : List Token} (h : Pushed c ts us)
    (hc : control? c = none) : ∃ t rest, us = t :: rest ∧ t.controlChar? = none := by
  cases h with
  | control ht =>
    rw [hc] at ht
    cases ht
  | escape | backslash | joined | started => exact ⟨_, _, rfl, rfl⟩

theorem ofStyle_of_not_beginsControl {s : Text} (h : beginsControl s = false) :
    s = [] ∨ ∃ t ts, ofStyle s = t :: ts ∧ t.controlChar? = none := by
  cases s with
  | nil => exact .inl rfl
  | cons c s =>
    have hc : control? c = none := by simpa [beginsControl] using h
    exact .inr ((pushed_ofStyle c s).exists_head hc)

theorem display_of_controlChar? {t : Token} {c : Char} (h : t.controlChar? = some c) :
    t.display = [c] := by
  cases t <;> cases h <;> rfl

theorem Pushed.flatMap_display {c : Char} {ts us : List Token} (h : Pushed c ts us) :
    us.flatMap display = c :: ts.flatMap display := by
  cases h with
  | control hc =>
    rw [List.flatMap_cons, display_of_controlChar? (controlChar?_of_control? hc)]
    rfl
  | escape hc ht =>
    subst hc
    rw [List.flatMap_cons, List.flatMap_cons, display_of_controlChar? ht]
    rfl
  | backslash hc =>
    subst hc
    rfl
  | joined | started => rfl

/-- The tokens of a style, written one after the other, are the style. -/
theorem flatMap_display_ofStyle (s : Text) : (ofStyle s).flatMap display = s := by
  induction s with
  | nil => rfl
  | cons c s ih => rw [(pushed_ofStyle c s).flatMap_display, ih]

end RadioText.Token
