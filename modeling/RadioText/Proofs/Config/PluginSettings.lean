import RadioText.Config.PluginSettings
import RadioText.Proofs.Text.Ends

/-! The player's settings read back as it writes them. An assignment is told by its first equals
sign and a value by the outermost quotes, so whatever a value has in it, and whatever white space is
around, the assignments come back in order. -/
namespace RadioText

namespace Text

theorem split_cons (sep c : Char) (t : Text) : split sep (c :: t) =
    if c = sep then [] :: split sep t
    else (c :: (split sep t).headD []) :: (split sep t).tail := by
  simp only [split, List.foldr_cons]
  split
  · rfl
  · cases t.foldr _ [[]] <;> rfl

theorem split_append {sep : Char} {t : Text} (h : sep ∉ t) (rest : Text) :
    split sep (t ++ sep :: rest) = t :: split sep rest := by
  induction t with
  | nil => rw [List.nil_append, split_cons, if_pos rfl]
  | cons c t ih =>
    have hc : c ≠ sep := fun heq => h (heq ▸ List.mem_cons_self)
    have ht : sep ∉ t := fun hmem => h (List.mem_cons_of_mem c hmem)
    rw [List.cons_append, split_cons, if_neg hc, ih ht]
    rfl

theorem split_ne_nil (sep : Char) (t : Text) : split sep t ≠ [] := by
  cases t with
  | nil => exact List.cons_ne_nil _ _
  | cons c t =>
    rw [split_cons]
    split <;> exact List.cons_ne_nil _ _

theorem lines_append {t : Text} (h : '\n' ∉ t) (rest : Text) :
    lines (t ++ '\n' :: rest) = t.dropReturn :: lines rest := by
  obtain ⟨p, ps, hparts⟩ := List.exists_cons_of_ne_nil (split_ne_nil '\n' rest)
  simp [lines, split_append h, hparts]

theorem dropReturn_eq_or (t : Text) : t.dropReturn = t ∨ t = t.dropReturn ++ ['\r'] := by
  rw [dropReturn]
  cases h : before? ['\r'] t with
  | none => exact .inl rfl
  | some rest =>
    obtain ⟨back, hback, rfl⟩ := Option.map_eq_some_iff.1 h
    have hreverse := congrArg List.reverse (eq_append_of_after? hback)
    simp only [List.reverse_reverse, List.reverse_append] at hreverse
    exact .inr hreverse

theorem mem_of_mem_dropReturn {t : Text} {c : Char} (h : c ∈ t.dropReturn) : c ∈ t := by
  obtain heq | heq := dropReturn_eq_or t
  · rwa [heq] at h
  · rw [heq]
    exact List.mem_append_left _ h

/-- A carriage return at the end of a line goes with the white space there. -/
theorem exists_dropReturn (front : Text) {c : Char} (hc : c ≠ '\r') (gap : Text) :
    ∃ rest, dropReturn (front ++ c :: gap) = front ++ c :: rest ∧ rest ⊆ gap := by
  obtain h | h := dropReturn_eq_or (front ++ c :: gap)
  · exact ⟨gap, h, fun _ => id⟩
  · obtain rfl | ⟨rest, d, rfl⟩ := List.eq_nil_or_concat gap
    · have hlast := congrArg List.getLast? h
      rw [List.getLast?_concat, List.getLast?_concat] at hlast
      exact absurd (Option.some.inj hlast) hc
    · refine ⟨rest, ?_, fun a ha => by simp [ha]⟩
      have hsplit : (front ++ c :: rest) ++ [d] =
          dropReturn (front ++ c :: rest.concat d) ++ ['\r'] := by
        rw [← h]
        simp
      exact (List.append_inj_left' hsplit rfl).symm

end Text

namespace PluginSettings

def Gap : Type := { t : Text // ∀ c ∈ t, isBlank c = true ∧ c ≠ '\n' }

structure Assignment where
  key : Text
  value : Text
  key_ne : key ≠ []
  key_chars : ∀ c ∈ key, isKeyChar c = true
  value_line : '\n' ∉ value

/-- A line of the file: an assignment with white space before its key, on both sides of its sign and
behind its last quote, or anything that has no equals sign. -/
inductive Line
  | assignment (a : Assignment) (before beforeSign afterSign after : Gap)
  | other (t : Text) (sign : '=' ∉ t) (line : '\n' ∉ t)

inductive LineEnd | lineFeed | returnLineFeed

def LineEnd.write : LineEnd → Text
  | lineFeed => ['\n']
  | returnLineFeed => ['\r', '\n']

namespace Line

def write : Line → Text
  | assignment a before beforeSign afterSign after =>
    before.1 ++ (a.key ++ (beforeSign.1 ++ '=' :: (afterSign.1 ++
      ('"' :: (a.value ++ '"' :: after.1)))))
  | other t _ _ => t

def pair? : Line → Option (Text × Text)
  | assignment a _ _ _ _ => some (a.key, a.value)
  | other _ _ _ => none

end Line

theorem not_isBlank_of_isKeyChar {c : Char} (h : isKeyChar c = true) : isBlank c = false := by
  have hrange : 48 ≤ c.toNat ∧ c.toNat ≤ 57 ∨ 65 ≤ c.toNat ∧ c.toNat ≤ 90 ∨ c.toNat = 95 ∨
      97 ≤ c.toNat ∧ c.toNat ≤ 122 := by
    obtain h | h := Bool.or_eq_true_iff.1 h
    · obtain h | h := Bool.or_eq_true_iff.1 h
      · obtain h | h := Bool.or_eq_true_iff.1 h
        · have hupper : c.val ≥ 'A'.val ∧ c.val ≤ 'Z'.val := of_decide_eq_true h
          exact .inr (.inl hupper)
        · obtain ⟨hlow, hhigh⟩ := Bool.and_eq_true_iff.1 h
          exact .inr (.inr (.inr ⟨of_decide_eq_true hlow, of_decide_eq_true hhigh⟩))
      · obtain ⟨hlow, hhigh⟩ := Bool.and_eq_true_iff.1 h
        exact .inl ⟨of_decide_eq_true hlow, of_decide_eq_true hhigh⟩
    · obtain rfl := eq_of_beq h
      exact .inr (.inr (.inl rfl))
  simp [isBlank]
  omega

theorem not_isKeyChar_of_isBlank {c : Char} (h : isBlank c = true) : isKeyChar c = false := by
  cases hk : isKeyChar c with
  | false => rfl
  | true =>
    rw [not_isBlank_of_isKeyChar hk] at h
    cases h

/-- The outermost quotes of a value are not its own. -/
theorem unquote_quoted (value : Text) : unquote ('"' :: (value ++ ['"'])) = value := by
  rw [unquote, Text.before?_append]
  rfl

theorem trim_quoted {before after : Text} (hbefore : ∀ c ∈ before, isBlank c = true)
    (hafter : ∀ c ∈ after, isBlank c = true) (value : Text) :
    Text.trim (before ++ '"' :: (value ++ '"' :: after)) = '"' :: (value ++ ['"']) := by
  have hlast : ∀ c, ('"' :: (value ++ ['"'])).getLast? = some c → isBlank c = false := by
    intro c hc
    rw [← List.cons_append, List.getLast?_concat] at hc
    cases hc
    rfl
  have htrim := Text.trim_append hbefore hafter (t := '"' :: (value ++ ['"']))
    (by rintro c ⟨⟩; rfl) hlast (List.cons_ne_nil _ _)
  simpa using htrim

/-- The key is what stands before the first equals sign, and the value all that stands behind it. -/
theorem assignment?_append {before key beforeSign : Text} (hne : key ≠ [])
    (hkey : ∀ c ∈ key, isKeyChar c = true) (hbefore : ∀ c ∈ before, isBlank c = true)
    (hsign : ∀ c ∈ beforeSign, isBlank c = true) (rest : Text) :
    assignment? (before ++ (key ++ (beforeSign ++ '=' :: rest))) =
      some (key, unquote (Text.trim rest)) := by
  have hstart : (before ++ (key ++ (beforeSign ++ '=' :: rest))).dropWhile isBlank =
      key ++ (beforeSign ++ '=' :: rest) := by
    obtain ⟨k, ks, rfl⟩ := List.exists_cons_of_ne_nil hne
    have hk : isBlank k = false := not_isBlank_of_isKeyChar (hkey k List.mem_cons_self)
    rw [List.dropWhile_append_of_pos hbefore, List.cons_append,
      List.dropWhile_cons_of_neg (by simp [hk])]
  -- The key ends where the white space before the sign begins, or at the sign.
  have hend : (beforeSign ++ '=' :: rest).takeWhile isKeyChar = [] ∧
      (beforeSign ++ '=' :: rest).dropWhile isKeyChar = beforeSign ++ '=' :: rest := by
    cases beforeSign with
    | nil => exact ⟨rfl, rfl⟩
    | cons b bs =>
      have hb := not_isKeyChar_of_isBlank (hsign b List.mem_cons_self)
      simp [hb]
  have hvalue : (beforeSign ++ '=' :: rest).dropWhile isBlank = '=' :: rest :=
    List.dropWhile_append_of_pos hsign
  unfold assignment?
  simp only [hstart, List.takeWhile_append_of_pos hkey, List.dropWhile_append_of_pos hkey, hend,
    hvalue, List.append_nil]
  rw [if_neg (by simpa using hne)]

theorem assignment?_of_not_mem {t : Text} (h : '=' ∉ t) : assignment? t = none := by
  unfold assignment?
  simp only
  split
  · rename_i value hvalue
    have hmem : '=' ∈ ((t.dropWhile isBlank).dropWhile isKeyChar).dropWhile isBlank := by
      rw [hvalue]
      exact List.mem_cons_self
    have hsuffix : ((t.dropWhile isBlank).dropWhile isKeyChar).dropWhile isBlank <:+ t :=
      ((List.dropWhile_suffix _).trans (List.dropWhile_suffix _)).trans (List.dropWhile_suffix _)
    exact absurd (hsuffix.subset hmem) h
  · rfl

namespace Line

/-- What is left of a line without its end is read as the line's assignment, if it has one. -/
theorem assignment?_write (l : Line) (e : LineEnd) (rest : Text) :
    ∃ t, Text.lines (l.write ++ e.write ++ rest) = t :: Text.lines rest ∧
      assignment? t = l.pair? := by
  obtain ⟨back, hback, hblank, hline⟩ : ∃ back : Text, e.write = back ++ ['\n'] ∧
      (∀ c ∈ back, isBlank c = true) ∧ '\n' ∉ back ∧ '=' ∉ back := by
    cases e with
    | lineFeed => exact ⟨[], rfl, by simp, by simp⟩
    | returnLineFeed => exact ⟨['\r'], rfl, by simp [isBlank], by decide⟩
  have hlines (h : '\n' ∉ l.write) : Text.lines (l.write ++ e.write ++ rest) =
      (l.write ++ back).dropReturn :: Text.lines rest := by
    rw [← Text.lines_append (by simp [h, hline]), hback]
    simp
  cases l with
  | assignment a before beforeSign afterSign after =>
    have hfeed : '\n' ∉ (assignment a before beforeSign afterSign after).write := by
      have hgap (g : Gap) : '\n' ∉ g.1 := fun hmem => (g.2 _ hmem).2 rfl
      have hkey : '\n' ∉ a.key := fun hmem => Bool.noConfusion (a.key_chars _ hmem)
      simp [write, hgap, hkey, a.value_line]
    have hblanks (g : Gap) : ∀ c ∈ g.1, isBlank c = true := fun c hc => (g.2 c hc).1
    -- The last quote keeps all before it when the carriage return goes.
    obtain ⟨after', hdrop, hsubset⟩ := Text.exists_dropReturn
      (before.1 ++ (a.key ++ (beforeSign.1 ++ '=' :: (afterSign.1 ++ '"' :: a.value))))
      (c := '"') (by decide) (after.1 ++ back)
    have hafter : ∀ c ∈ after', isBlank c = true := fun c hc =>
      (List.mem_append.1 (hsubset hc)).elim (hblanks after c) (hblank c)
    refine ⟨_, hlines hfeed, ?_⟩
    simp only [write, List.append_assoc, List.cons_append] at hdrop ⊢
    rw [hdrop, assignment?_append a.key_ne a.key_chars (hblanks before) (hblanks beforeSign),
      trim_quoted (hblanks afterSign) hafter, unquote_quoted]
    rfl
  | other t hsign hfeed =>
    refine ⟨_, hlines hfeed, assignment?_of_not_mem fun hmem => ?_⟩
    obtain hback | hback := List.mem_append.1 (Text.mem_of_mem_dropReturn hmem)
    · exact hsign hback
    · exact hline.2 hback

end Line

/-- Whatever the player writes is read back: the assignments of a file come back in order and with
repetitions, each with its value as it was. -/
theorem read_assignments (file : List (Line × LineEnd)) :
    read (file.flatMap fun (l, e) => l.write ++ e.write) =
      file.filterMap fun (l, _) => l.pair? := by
  induction file with
  | nil => rfl
  | cons x file ih =>
    obtain ⟨l, e⟩ := x
    obtain ⟨t, hlines, hpair⟩ := l.assignment?_write e
      (file.flatMap fun (l, e) => l.write ++ e.write)
    rw [read] at ih ⊢
    rw [List.flatMap_cons, hlines, List.filterMap_cons, List.filterMap_cons, hpair, ih]

end PluginSettings
end RadioText
