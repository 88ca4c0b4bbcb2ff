import Mathlib.Algebra.Order.Floor.Div
import Mathlib.Data.Set.Function
import Mathlib.Order.Bounds.Basic
import RadioText.Proofs.Framing

/-! What a receiver gets back of a text. The screens of a text hold it from end to end, and only the
last one is filled up. A frame holds as much of a text as there is room for; its end mark, where it
has one, keeps a receiver from reading on into whatever stands behind it. -/
namespace RadioText

/-! ### Screens -/

theorem psScreens_short {t : Text} (h : t.length ≤ psSize) :
    psScreens t = [t ++ List.replicate (psSize - t.length) ' '] := by
  rw [psScreens, if_pos h]

theorem psScreens_long {t : Text} (h : psSize < t.length) :
    psScreens t = t.take psSize :: psScreens (t.drop psSize) := by
  rw [psScreens, if_neg (Nat.not_le.2 h)]

/-- Screens cut from the text, and one with what is left of it and spaces behind. -/
theorem exists_psScreens (t : Text) :
    ∃ whole last, psScreens t = whole ++ [last ++ List.replicate (psSize - last.length) ' '] ∧
      whole.flatten ++ last = t ∧ last.length ≤ psSize ∧ (t ≠ [] → last ≠ []) := by
  induction t using psScreens.induct with
  | case1 t hle => exact ⟨[], t, psScreens_short hle, rfl, hle, id⟩
  | case2 t hlong ih =>
    have hlong := Nat.not_le.1 hlong
    obtain ⟨whole, last, hscreens, htext, hlast, hne⟩ := ih
    have hrest : t.drop psSize ≠ [] := by
      rwa [ne_eq, List.drop_eq_nil_iff, Nat.not_le]
    refine ⟨t.take psSize :: whole, last, ?_, ?_, hlast, fun _ => hne hrest⟩
    · rw [psScreens_long hlong, hscreens, List.cons_append]
    · rw [List.flatten_cons, List.append_assoc, htext, List.take_append_drop]

theorem length_flatten_of_forall {parts : List Text} {n : Nat}
    (h : ∀ part ∈ parts, part.length = n) : parts.flatten.length = n * parts.length := by
  rw [List.length_flatten, List.map_congr_left h, List.map_const', List.sum_replicate_nat,
    Nat.mul_comm]

/-- What `last` characters lack of a full screen is the least padding, also behind full screens. No
characters at all lack a whole screen. -/
theorem isLeast_padding {whole last : Nat} (hlast : last ≤ 8)
    (hpos : 0 < 8 * whole + last → 0 < last) :
    IsLeast {k | 0 < 8 * whole + last + k ∧ 8 ∣ 8 * whole + last + k} (8 - last) := by
  constructor
  · constructor <;> omega
  · rintro k ⟨hk, hdvd⟩
    omega

/-- The screens of a text hold all of it: each has eight characters, there are as many as it takes,
and behind the text stand the fewest spaces that fill the last screen. -/
theorem psScreens_hold (t : Text) :
    (∀ screen ∈ psScreens t, screen.length = 8) ∧
      (psScreens t).length = max 1 (t.length ⌈/⌉ 8) ∧
      ∃ whole last pad, psScreens t = whole ++ [last ++ List.replicate pad ' '] ∧
        whole.flatten ++ last = t ∧
        (psScreens t).flatten = t ++ List.replicate pad ' ' ∧
        IsLeast {k | 0 < t.length + k ∧ 8 ∣ t.length + k} pad ∧
        (t ≠ [] → pad < 8) := by
  have hfull : ∀ screen ∈ psScreens t, screen.length = 8 := fun _ => length_of_mem_psScreens
  obtain ⟨whole, last, hscreens, htext, hlast, hne⟩ := exists_psScreens t
  have hwhole : whole.flatten.length = 8 * whole.length := by
    apply length_flatten_of_forall
    intro screen hs
    exact hfull screen (by simp [hscreens, hs])
  have hlength : t.length = 8 * whole.length + last.length := by
    rw [← hwhole, ← List.length_append, htext]
  have hpos : 0 < t.length → 0 < last.length := by
    simpa only [List.length_pos_iff] using hne
  refine ⟨hfull, ?_, whole, last, 8 - last.length, hscreens, htext, ?_, ?_, fun ht => ?_⟩
  · rw [hscreens, List.length_append, List.length_singleton, Nat.ceilDiv_eq_add_pred_div]
    have hle : last.length ≤ 8 := hlast
    omega
  · rw [hscreens, List.flatten_append, List.flatten_singleton, ← List.append_assoc, htext]
    rfl
  · rw [hlength] at hpos ⊢
    exact isLeast_padding hlast hpos
  · exact Nat.sub_lt (by decide) (hpos (List.length_pos_iff.2 ht))

/-- Ten characters, one of them of two bytes, take two screens, the second with six spaces. -/
theorem psScreens_hold_accent :
    let t : Text := ['F', 'e', 'l', 'i', 'z', ',', 'N', 'o', 'ë', 'l']
    let screen : Text := ['ë', 'l', ' ', ' ', ' ', ' ', ' ', ' ']
    (screen ∈ psScreens t ∧ screen.length = 8) ∧
      t ≠ [] ∧ ∃ pad, (psScreens t).flatten = t ++ List.replicate pad ' ' ∧ pad < 8 := by
  intro t screen
  have hmem : screen ∈ psScreens t := by simp [screen, t, psScreens, psSize]
  have hne : t ≠ [] := by simp [t]
  obtain ⟨hfull, -, _, _, pad, -, -, hflat, -, hpad⟩ := psScreens_hold t
  exact ⟨⟨hmem, hfull _ hmem⟩, hne, pad, hflat, hpad hne⟩

/-! ### Frames -/

theorem rtFrame_short {t : Text} {size : Nat} (h : t.length < size) :
    rtFrame t size = t ++ [rtEnd] := by
  rw [rtFrame, if_pos h]

theorem rtFrame_long {t : Text} {size : Nat} (h : size ≤ t.length) :
    rtFrame t size = t.take size := by
  rw [rtFrame, if_neg (Nat.not_lt.2 h)]

/-- What a receiver with room for so many characters reads: all up to an end mark, or until it is
full. -/
def received : Nat → Text → Text
  | 0, _ => []
  | _ + 1, [] => []
  | room + 1, c :: rest => if c = rtEnd then [] else c :: received room rest

theorem received_end {t : Text} (ht : rtEnd ∉ t) {room : Nat} (h : t.length < room)
    (rest : Text) : received room (t ++ rtEnd :: rest) = t := by
  induction t generalizing room with
  | nil =>
    cases room with
    | zero => exact absurd h (Nat.not_lt_zero _)
    | succ room => rw [List.nil_append, received, if_pos rfl]
  | cons c t ih =>
    obtain ⟨hc, ht⟩ := List.ne_and_not_mem_of_not_mem_cons ht
    cases room with
    | zero => exact absurd h (Nat.not_lt_zero _)
    | succ room =>
      rw [List.cons_append, received, if_neg hc.symm, ih ht (Nat.lt_of_succ_lt_succ h)]

theorem received_full {t : Text} (ht : rtEnd ∉ t) {room : Nat} (h : room ≤ t.length)
    (rest : Text) : received room (t ++ rest) = t.take room := by
  induction room generalizing t with
  | zero => rfl
  | succ room ih =>
    cases t with
    | nil => exact absurd h (Nat.not_succ_le_zero _)
    | cons c t =>
      obtain ⟨hc, ht⟩ := List.ne_and_not_mem_of_not_mem_cons ht
      rw [List.cons_append, received, if_neg hc.symm, ih ht (Nat.le_of_succ_le_succ h),
        List.take_succ_cons]

/-- A text without end mark is received as far as there is room for it, whatever stands behind its
frame. -/
theorem received_rtFrame {t : Text} (ht : rtEnd ∉ t) (size : Nat) (rest : Text) :
    received size (rtFrame t size ++ rest) = t.take size := by
  rcases Nat.lt_or_ge t.length size with h | h
  · rw [rtFrame_short h, List.append_assoc, List.singleton_append, received_end ht h,
      List.take_of_length_le (Nat.le_of_lt h)]
  · have hcut : rtEnd ∉ t.take size := fun hmem => ht (List.mem_of_mem_take hmem)
    rw [rtFrame_long h, received_full hcut (by simp [h]), List.take_take, Nat.min_self]

theorem rtFrame_eq_concat_iff (t : Text) (size : Nat) :
    rtFrame t size = t.take (min t.length size) ++ [rtEnd] ↔ t.length < size := by
  constructor
  · intro h
    have hlength := congrArg List.length h
    rw [length_rtFrame, List.length_append, List.length_take, List.length_singleton] at hlength
    omega
  · intro h
    rw [rtFrame_short h, Nat.min_eq_left (Nat.le_of_lt h), List.take_length]

theorem rtFrame_eq_take_iff (t : Text) (size : Nat) :
    rtFrame t size = t.take (min t.length size) ↔ size ≤ t.length := by
  constructor
  · intro h
    have hlength := congrArg List.length h
    rw [length_rtFrame, List.length_take] at hlength
    omega
  · intro h
    rw [rtFrame_long h, Nat.min_eq_right h]

/-- A frame fits its buffer, and begins with as much of the text as does. It ends in one more
character, the end mark, exactly if the text leaves room for it. A receiver gets all of a text that
has no end mark itself, as far as it fits, so such texts that fit are told apart by their frames. -/
theorem rtFrame_decodable (size : Nat) :
    (∀ t : Text, (rtFrame t size).length ≤ size ∧
      t.take (min t.length size) <+: rtFrame t size ∧
      (rtFrame t size = t.take (min t.length size) ++ ['\r'] ↔ t.length < size) ∧
      (rtFrame t size = t.take (min t.length size) ↔ size ≤ t.length)) ∧
    (∀ t : Text, '\r' ∉ t → ∀ rest, received size (rtFrame t size ++ rest) = t.take size) ∧
    Set.InjOn (rtFrame · size) {t | '\r' ∉ t ∧ t.length ≤ size} := by
  refine ⟨fun t => ⟨?_, ?_, rtFrame_eq_concat_iff t size, rtFrame_eq_take_iff t size⟩,
    fun t ht => received_rtFrame ht size, ?_⟩
  · rw [length_rtFrame]
    exact Nat.min_le_right _ _
  · rcases Nat.lt_or_ge t.length size with h | h
    · rw [(rtFrame_eq_concat_iff t size).2 h]
      exact List.prefix_append _ _
    · rw [(rtFrame_eq_take_iff t size).2 h]
  · rintro t ⟨ht, hfits⟩ u ⟨hu, hfits'⟩ heq
    calc
      t = received size (rtFrame t size ++ []) := by
        rw [received_rtFrame ht, List.take_of_length_le hfits]
      _ = received size (rtFrame u size ++ []) :=
        congrArg (fun frame => received size (frame ++ [])) heq
      _ = u := by
        rw [received_rtFrame hu, List.take_of_length_le hfits']

/-- What stands behind a short text is not received, and a text that fills the buffer is told from the
one without its last space. -/
theorem rtFrame_decodable_accent :
    ('\r' ∉ ['N', 'o', 'ë', 'l'] ∧
      received 5 (rtFrame ['N', 'o', 'ë', 'l'] 5 ++ ['!', '!']) = ['N', 'o', 'ë', 'l']) ∧
    rtFrame ['N', 'o', 'ë', 'l'] 5 ≠ rtFrame ['N', 'o', 'ë', 'l', ' '] 5 := by
  obtain ⟨-, hreceived, hinj⟩ := rtFrame_decodable 5
  have hfree : '\r' ∉ ['N', 'o', 'ë', 'l'] := by decide
  have hne : ['N', 'o', 'ë', 'l'] ≠ ['N', 'o', 'ë', 'l', ' '] := by decide
  exact ⟨⟨hfree, hreceived _ hfree _⟩, hinj.ne (by decide) (by decide) hne⟩

end RadioText
