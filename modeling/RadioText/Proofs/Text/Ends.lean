import Mathlib.Data.List.TakeWhile
import RadioText.Text

/-! Texts that keep their ends, texts without line breaks, and texts of lines that each have their
end. -/
namespace RadioText.Text

theorem dropEnd_eq_self {p : Char → Bool} {t : Text}
    (h : ∀ c, t.getLast? = some c → p c = false) : t.dropEnd p = t := by
  have hdrop : t.reverse.dropWhile p = t.reverse := by
    cases hr : t.reverse with
    | nil => rfl
    | cons c r =>
      have hlast : t.getLast? = some c := by rw [← List.head?_reverse, hr, List.head?_cons]
      rw [List.dropWhile_cons_of_neg (by simp [h c hlast])]
  rw [dropEnd, hdrop, List.reverse_reverse]

theorem dropEnd_append {p : Char → Bool} {front : Text}
    (h : ∀ c, front.getLast? = some c → p c = false) (t : Text) :
    dropEnd p (front ++ t) = front ++ dropEnd p t := by
  rw [dropEnd, List.reverse_append, List.dropWhile_append]
  split
  · rename_i hempty
    have hnil : dropEnd p t = [] := by simpa [dropEnd] using hempty
    rw [hnil, List.append_nil]
    exact dropEnd_eq_self h
  · rw [List.reverse_append, List.reverse_reverse]
    rfl

theorem dropEnd_append_eq_self {p : Char → Bool} {front back : Text}
    (hf : ∀ c, front.getLast? = some c → p c = false)
    (hb : ∀ c, back.getLast? = some c → p c = false) :
    dropEnd p (front ++ back) = front ++ back := by
  rw [dropEnd_append hf, dropEnd_eq_self hb]

theorem not_of_getLast?_dropEnd {p : Char → Bool} {t : Text} {c : Char}
    (h : (t.dropEnd p).getLast? = some c) : p c = false := by
  have hhead := List.head?_dropWhile_not p t.reverse
  rw [dropEnd, List.getLast?_reverse] at h
  rw [h] at hhead
  simpa using hhead

theorem dropEnd_eq_self_iff {p : Char → Bool} {t : Text} :
    t.dropEnd p = t ↔ ∀ c, t.getLast? = some c → p c = false :=
  ⟨fun h _ hc => not_of_getLast?_dropEnd (h.symm ▸ hc), dropEnd_eq_self⟩

theorem dropEnd_of_forall {p : Char → Bool} {t : Text} (h : ∀ c ∈ t, p c = false) :
    t.dropEnd p = t :=
  dropEnd_eq_self fun c hc => h c (List.mem_of_getLast? hc)

theorem trim_of_forall {t : Text} (h : ∀ c ∈ t, isBlank c = false) : t.trim = t := by
  have hdrop : t.dropWhile isBlank = t := by
    cases t with
    | nil => rfl
    | cons c r => rw [List.dropWhile_cons_of_neg (by simp [h c])]
  rw [trim, hdrop, dropEnd_of_forall h]

theorem dropEnd_append_of_forall {p : Char → Bool} {after : Text} (h : ∀ c ∈ after, p c = true)
    (t : Text) : dropEnd p (t ++ after) = dropEnd p t := by
  rw [dropEnd, List.reverse_append,
    List.dropWhile_append_of_pos fun c hc => h c (List.mem_reverse.1 hc)]
  rfl

/-- White space around a text goes if the text has none at its ends. -/
theorem trim_append {before t after : Text} (hbefore : ∀ c ∈ before, isBlank c = true)
    (hafter : ∀ c ∈ after, isBlank c = true) (hhead : ∀ c, t.head? = some c → isBlank c = false)
    (hlast : ∀ c, t.getLast? = some c → isBlank c = false) (hne : t ≠ []) :
    trim (before ++ (t ++ after)) = t := by
  obtain ⟨c, rest, rfl⟩ := List.exists_cons_of_ne_nil hne
  have hc : isBlank c = false := hhead c rfl
  rw [trim, List.dropWhile_append_of_pos hbefore, List.cons_append,
    List.dropWhile_cons_of_neg (by simp [hc]), ← List.cons_append,
    dropEnd_append_of_forall hafter, dropEnd_eq_self hlast]

theorem exists_dropEnd (p : Char → Bool) (t : Text) :
    ∃ rest, t = t.dropEnd p ++ rest ∧ rest.all p = true := by
  refine ⟨(t.reverse.takeWhile p).reverse, ?_, ?_⟩
  · rw [dropEnd, ← List.reverse_append, List.takeWhile_append_dropWhile, List.reverse_reverse]
  · rw [List.all_reverse]
    exact List.all_takeWhile

theorem exists_trim (t : Text) :
    ∃ before after, t = before ++ t.trim ++ after ∧ before.blank = true ∧ after.blank = true := by
  obtain ⟨after, hafter, hblank⟩ := exists_dropEnd isBlank (t.dropWhile isBlank)
  refine ⟨t.takeWhile isBlank, after, ?_, List.all_takeWhile, hblank⟩
  rw [List.append_assoc, trim, ← hafter, List.takeWhile_append_dropWhile]

def CutEnd (p : Char → Bool) (t core : Text) : Prop :=
  ∃ after, t = core ++ after ∧ (∀ c ∈ after, p c = true) ∧
    ∀ c, core.getLast? = some c → p c = false

theorem dropEnd_eq_iff {p : Char → Bool} {t core : Text} :
    t.dropEnd p = core ↔ CutEnd p t core := by
  constructor
  · rintro rfl
    obtain ⟨after, ht, hafter⟩ := exists_dropEnd p t
    exact ⟨after, ht, List.all_eq_true.1 hafter, fun _ => not_of_getLast?_dropEnd⟩
  · rintro ⟨after, rfl, hafter, hlast⟩
    rw [dropEnd_append_of_forall hafter, dropEnd_eq_self hlast]

def Solid (t : Text) : Prop := ∀ c, t.getLast? = some c → isBlank c = false

theorem Solid.append {t u : Text} (ht : t.Solid) (hu : u.Solid) : Solid (t ++ u) := by
  intro c hc
  rw [List.getLast?_append, Option.or_eq_some_iff] at hc
  rcases hc with hc | ⟨_, hc⟩
  · exact hu c hc
  · exact ht c hc

theorem Solid.trimEnd_append {t : Text} (h : t.Solid) (u : Text) :
    trimEnd (t ++ u) = t ++ u.trimEnd :=
  dropEnd_append h u

theorem solid_concat {c : Char} (h : isBlank c = false) (t : Text) : Solid (t ++ [c]) := by
  intro d hd
  rw [List.getLast?_concat] at hd
  cases hd
  exact h

theorem trimEnd_eq_self_iff (t : Text) : t.trimEnd = t ↔ t.Solid := dropEnd_eq_self_iff

theorem solid_trimEnd (t : Text) : t.trimEnd.Solid := fun _ => not_of_getLast?_dropEnd

theorem trimEnd_eq_nil_iff (t : Text) : t.trimEnd = [] ↔ t.blank = true := by
  simp [trimEnd, dropEnd, blank, List.dropWhile_eq_nil_iff]

def Trimmed (t core : Text) : Prop :=
  ∃ before after, t = before ++ (core ++ after) ∧
    (∀ c ∈ before, isBlank c = true) ∧ (∀ c ∈ after, isBlank c = true) ∧
    (∀ c, core.head? = some c → isBlank c = false) ∧
    ∀ c, core.getLast? = some c → isBlank c = false

theorem not_isBlank_of_head?_trim {t : Text} {c : Char} (h : t.trim.head? = some c) :
    isBlank c = false := by
  obtain ⟨after, hafter, _⟩ := exists_dropEnd isBlank (t.dropWhile isBlank)
  have hhead : (t.dropWhile isBlank).head? = some c := by
    rw [hafter, List.head?_append]
    exact Option.or_eq_some_iff.2 (.inl h)
  have hnot := List.head?_dropWhile_not isBlank t
  rw [hhead] at hnot
  simpa using hnot

theorem trim_eq_iff {t core : Text} : t.trim = core ↔ Trimmed t core := by
  constructor
  · rintro rfl
    obtain ⟨before, after, ht, hbefore, hafter⟩ := exists_trim t
    rw [List.append_assoc] at ht
    exact ⟨before, after, ht, List.all_eq_true.1 hbefore, List.all_eq_true.1 hafter,
      fun _ => not_isBlank_of_head?_trim, fun _ => not_of_getLast?_dropEnd⟩
  · rintro ⟨before, after, rfl, hbefore, hafter, hhead, hlast⟩
    by_cases hcore : core = []
    · have hblank : ∀ c ∈ before ++ after, isBlank c = true := fun c hc =>
        (List.mem_append.1 hc).elim (hbefore c) (hafter c)
      rw [hcore, List.nil_append, trim, List.dropWhile_eq_nil_iff.2 hblank]
      rfl
    · exact trim_append hbefore hafter hhead hlast hcore

theorem after?_append (start t : Text) : after? start (start ++ t) = some t := by
  induction start with
  | nil => rfl
  | cons c start ih => simpa [after?] using ih

theorem before?_append (tail t : Text) : before? tail (t ++ tail) = some t := by
  rw [before?, List.reverse_append, after?_append, Option.map_some, List.reverse_reverse]

theorem eq_append_of_after? {start t rest : Text} (h : after? start t = some rest) :
    t = start ++ rest := by
  induction start generalizing t with
  | nil => exact Option.some.inj h
  | cons c start ih =>
    cases t with
    | nil => cases h
    | cons d t =>
      change (if c = d then after? start t else none) = some rest at h
      split at h
      · rename_i hcd
        rw [hcd, ih h, List.cons_append]
      · cases h

def Unbroken (t : Text) : Prop := ∀ c ∈ t, isBreak c = false

@[simp] theorem unbroken_nil : Unbroken [] := by
  intro c hc
  cases hc

theorem unbroken_of_all {t : Text} (h : t.all (fun c => !isBreak c) = true) : t.Unbroken := by
  intro c hc
  simpa using List.all_eq_true.1 h c hc

theorem unbroken_oneLine (t : Text) : t.oneLine.Unbroken := by
  intro c hc
  obtain ⟨d, _, rfl⟩ := List.mem_map.1 hc
  cases hd : isBreak d with
  | true => rfl
  | false => simpa using hd

theorem Unbroken.append {t u : Text} (ht : t.Unbroken) (hu : u.Unbroken) :
    Unbroken (t ++ u) := by
  intro c hc
  obtain hc | hc := List.mem_append.1 hc
  · exact ht c hc
  · exact hu c hc

def Lined (t : Text) (n : Nat) : Prop :=
  ∃ ls : List Text, ls.length = n ∧ (∀ l ∈ ls, '\n' ∉ l) ∧ t = ls.flatMap (· ++ ['\n'])

theorem Lined.count {t : Text} {n : Nat} (h : t.Lined n) : t.count '\n' = n := by
  obtain ⟨ls, rfl, hls, rfl⟩ := h
  induction ls with
  | nil => rfl
  | cons l ls ih =>
    obtain ⟨hl, hls⟩ := List.forall_mem_cons.1 hls
    rw [List.flatMap_cons, List.count_append, ih hls, List.count_append, List.count_eq_zero.2 hl,
      List.length_cons, Nat.add_comm]
    rfl

theorem Lined.append {t u : Text} {m n : Nat} (ht : t.Lined m) (hu : u.Lined n) :
    Lined (t ++ u) (m + n) := by
  obtain ⟨ls, rfl, hls, rfl⟩ := ht
  obtain ⟨ks, rfl, hks, rfl⟩ := hu
  refine ⟨ls ++ ks, List.length_append, ?_, List.flatMap_append.symm⟩
  intro l hl
  exact (List.mem_append.1 hl).elim (hls l) (hks l)

theorem lined_flatten {ts : List Text} (h : ∀ t ∈ ts, t.Lined 1) : Lined ts.flatten ts.length := by
  induction ts with
  | nil => exact ⟨[], rfl, by simp, rfl⟩
  | cons t ts ih =>
    obtain ⟨ht, hts⟩ := List.forall_mem_cons.1 h
    rw [List.flatten_cons, List.length_cons, Nat.add_comm]
    exact ht.append (ih hts)

/-- A text that is ended by a line feed has a line more than it has line feeds. -/
theorem lined_line (t : Text) : Lined (t ++ ['\n']) (1 + t.count '\n') := by
  induction t with
  | nil => exact ⟨[[]], rfl, by simp, rfl⟩
  | cons c t ih =>
    by_cases hc : c = '\n'
    · subst hc
      have hempty : Lined ['\n'] 1 := ⟨[[]], rfl, by simp, rfl⟩
      rw [List.count_cons_self, Nat.add_comm _ 1]
      exact hempty.append ih
    · obtain ⟨ls, hlength, hls, ht⟩ := ih
      rw [List.count_cons_of_ne hc, List.cons_append]
      cases ls with
      | nil =>
        rw [List.length_nil] at hlength
        omega
      | cons l ls =>
        obtain ⟨hl, hls⟩ := List.forall_mem_cons.1 hls
        refine ⟨(c :: l) :: ls, hlength, List.forall_mem_cons.2 ⟨?_, hls⟩, ?_⟩
        · simp [hl, Ne.symm hc]
        · rw [ht]
          rfl

end RadioText.Text
