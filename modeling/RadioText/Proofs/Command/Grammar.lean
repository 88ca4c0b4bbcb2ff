import RadioText.Proofs.Command.NormalForm

/-! The grammar of the line protocol: what a line means, less the line breaks at its end. It is stated
without the reader, and the reader says exactly that: no line is read as anything else, or refused
for another reason. -/
namespace RadioText.Command

def keywords : List (String × Command) :=
  [("INIT", init), ("START", start), ("STOP", stop), ("RESET", reset), ("UPDATE", update),
    ("EXIT", exit)]

def textLetters : List (Char × (Text → Command)) :=
  [('T', title), ('A', artist), ('B', album), ('G', genre)]

def numberLetters : List (Char × Nat × (Nat → Command)) :=
  [('N', 32, fun n => trackNumber (.ofNat n)), ('L', 64, fun n => trackLength (.ofNat n)),
    ('P', 32, fun n => playlistPosition (.ofNat n)), ('C', 32, fun n => playlistCount (.ofNat n))]

def letters : List Char := textLetters.map Prod.fst ++ numberLetters.map Prod.fst

/-- What a line without line breaks at its end means. -/
inductive Means : Text → Except CommandError Command → Prop
  | empty : Means [] (.error .empty)
  | keyword {name : String} {c : Command} (h : (name, c) ∈ keywords) : Means name.toList (.ok c)
  | mainPlaylist (name : Text) : Means ("MAINLIST".toList ++ name) (.ok (mainPlaylist name))
  | text {letter : Char} {make : Text → Command} (h : (letter, make) ∈ textLetters) (t : Text) :
      Means (letter :: t) (.ok (make t))
  | zero {letter : Char} {bits : Nat} {make : Nat → Command}
      (h : (letter, bits, make) ∈ numberLetters) {value : Text} (hvalue : value.Trimmed []) :
      Means (letter :: value) (.ok (make 0))
  | number {letter : Char} {bits : Nat} {make : Nat → Command}
      (h : (letter, bits, make) ∈ numberLetters) {value core : Text} (hvalue : value.Trimmed core)
      {n : Nat} (hcore : Decimal.Numeral core n) (hn : n < 2 ^ bits) :
      Means (letter :: value) (.ok (make n))
  | invalidNumber {letter : Char} {bits : Nat} {make : Nat → Command}
      (h : (letter, bits, make) ∈ numberLetters) {value core : Text} (hvalue : value.Trimmed core)
      (hne : core ≠ []) (hcore : ∀ n, Decimal.Numeral core n → 2 ^ bits ≤ n) :
      Means (letter :: value) (.error (.invalidNumber letter core))
  | unknown {letter : Char} {value : Text} (hletter : letter ∉ letters)
      (hkeyword : ∀ k ∈ keywords, k.1.toList ≠ letter :: value)
      (hmain : ¬ "MAINLIST".toList <+: letter :: value) :
      Means (letter :: value) (.error (.unknown (letter :: value)))

theorem plain_of_mem_letters {letter : Char} (h : letter ∈ letters) : Plain letter := by
  have hall : letters.all fun letter => decide (Plain letter) := by decide
  exact of_decide_eq_true (List.all_eq_true.1 hall letter h)

theorem read_letter {letter : Char} (h : letter ∈ letters) {value : Text}
    (hlast : ∀ c, (letter :: value).getLast? = some c → isBreak c = false) :
    read (letter :: value) = lettered (letter :: value) letter value := by
  refine read_plain (plain_of_mem_letters h) fun c hc => hlast c ?_
  rw [List.getLast?_cons, hc]
  rfl

theorem lettered_text {letter : Char} {make : Text → Command} (h : (letter, make) ∈ textLetters)
    (line value : Text) : lettered line letter value = .ok (make value) := by
  simp only [textLetters, List.mem_cons, List.not_mem_nil, or_false, Prod.mk.injEq] at h
  obtain ⟨rfl, rfl⟩ | ⟨rfl, rfl⟩ | ⟨rfl, rfl⟩ | ⟨rfl, rfl⟩ := h <;> rfl

theorem lettered_number {letter : Char} {bits : Nat} {make : Nat → Command}
    (h : (letter, bits, make) ∈ numberLetters) (line value : Text) :
    lettered line letter value = (number (2 ^ bits) letter value).map make := by
  simp only [numberLetters, List.mem_cons, List.not_mem_nil, or_false, Prod.mk.injEq] at h
  obtain ⟨rfl, rfl, rfl⟩ | ⟨rfl, rfl, rfl⟩ | ⟨rfl, rfl, rfl⟩ | ⟨rfl, rfl, rfl⟩ := h <;> rfl

theorem lettered_unknown {letter : Char} (h : letter ∉ letters) (line value : Text) :
    lettered line letter value = .error (.unknown line) := by
  unfold lettered
  split
  rotate_left 8
  · rfl
  all_goals exact absurd (by decide) h

theorem number_zero {bound : Nat} {letter : Char} {value : Text} (h : value.Trimmed []) :
    number bound letter value = .ok 0 := by
  simp [number, Text.trim_eq_iff.2 h]

theorem number_numeral {bound n : Nat} {letter : Char} {value core : Text}
    (h : value.Trimmed core) (hcore : Decimal.Numeral core n) (hn : n < bound) :
    number bound letter value = .ok n := by
  simp [number, Text.trim_eq_iff.2 h, hcore.ne_nil, Decimal.read?_eq_some_iff.2 ⟨hcore, hn⟩]

theorem number_invalid {bound : Nat} {letter : Char} {value core : Text} (h : value.Trimmed core)
    (hne : core ≠ []) (hcore : ∀ n, Decimal.Numeral core n → bound ≤ n) :
    number bound letter value = .error (.invalidNumber letter core) := by
  have hread : Decimal.read? bound core = none := by
    refine Option.eq_none_iff_forall_ne_some.2 fun n hn => ?_
    obtain ⟨hnumeral, hlt⟩ := Decimal.read?_eq_some_iff.1 hn
    exact absurd (hcore n hnumeral) (Nat.not_le.2 hlt)
  simp [number, Text.trim_eq_iff.2 h, hne, hread]

theorem mem_letters_of_number {letter : Char} {bits : Nat} {make : Nat → Command}
    (h : (letter, bits, make) ∈ numberLetters) : letter ∈ letters :=
  List.mem_append_right _ (List.mem_map_of_mem h)

theorem read_keyword : ∀ k ∈ keywords, read k.1.toList = .ok k.2 := by
  have hwrite : ∀ k ∈ keywords, k.1.toList = k.2.write ∧ k.2.payload? = none := by decide
  intro k hk
  obtain ⟨hname, hpayload⟩ := hwrite k hk
  rw [hname]
  exact read_write (by simp [hpayload])

theorem keyword?_of_not_mem {line : Text} (h : ∀ k ∈ keywords, k.1.toList ≠ line) :
    keyword? line = none := by
  have hwrite : ∀ c ∈ [init, start, stop, reset, update, exit], ∃ k ∈ keywords,
      k.1.toList = c.write := by decide
  refine List.find?_eq_none.2 fun c hc heq => ?_
  obtain ⟨k, hk, hname⟩ := hwrite c hc
  exact h k hk (hname.trans (of_decide_eq_true heq))

/-- What a line means is what the reader says, one case after the other. -/
theorem Means.read_eq {rest : Text} {result : Except CommandError Command} (h : Means rest result)
    (hlast : ∀ c, rest.getLast? = some c → isBreak c = false) : read rest = result := by
  cases h with
  | empty => rfl
  | keyword h => exact read_keyword (_, _) h
  | mainPlaylist name =>
    refine read_mainPlaylist fun c hc => hlast c ?_
    rw [List.getLast?_append, hc]
    rfl
  | text h t => rw [read_letter (List.mem_append_left _ (List.mem_map_of_mem h)) hlast,
      lettered_text h]
  | zero h hvalue =>
    rw [read_letter (mem_letters_of_number h) hlast, lettered_number h, number_zero hvalue]
    rfl
  | number h hvalue hcore hn =>
    rw [read_letter (mem_letters_of_number h) hlast, lettered_number h,
      number_numeral hvalue hcore hn]
    rfl
  | invalidNumber h hvalue hne hcore =>
    rw [read_letter (mem_letters_of_number h) hlast, lettered_number h,
      number_invalid hvalue hne hcore]
    rfl
  | @unknown letter value hletter hkeyword hmain =>
    have hafter : Text.after? "MAINLIST".toList (letter :: value) = none := by
      refine Option.eq_none_iff_forall_ne_some.2 fun name hname => ?_
      exact hmain ⟨name, (Text.eq_append_of_after? hname).symm⟩
    unfold read
    simp only [Text.dropEnd_eq_self hlast, keyword?_of_not_mem hkeyword, hafter,
      lettered_unknown hletter]

theorem exists_means_number {letter : Char} {bits : Nat} {make : Nat → Command}
    (h : (letter, bits, make) ∈ numberLetters) (value : Text) :
    ∃ result, Means (letter :: value) result := by
  have hvalue := Text.trim_eq_iff.1 (rfl : value.trim = value.trim)
  by_cases hempty : value.trim = []
  · rw [hempty] at hvalue
    exact ⟨_, .zero h hvalue⟩
  · by_cases hn : ∃ n, Decimal.Numeral value.trim n ∧ n < 2 ^ bits
    · obtain ⟨n, hcore, hlt⟩ := hn
      exact ⟨_, .number h hvalue hcore hlt⟩
    · refine ⟨_, .invalidNumber h hvalue hempty fun n hcore => ?_⟩
      exact Nat.not_lt.1 fun hlt => hn ⟨n, hcore, hlt⟩

theorem exists_means (rest : Text) : ∃ result, Means rest result := by
  cases rest with
  | nil => exact ⟨_, .empty⟩
  | cons letter value =>
    by_cases hkeyword : ∃ k ∈ keywords, k.1.toList = letter :: value
    · obtain ⟨⟨name, c⟩, hk, hname⟩ := hkeyword
      rw [← hname]
      exact ⟨_, .keyword hk⟩
    by_cases hmain : "MAINLIST".toList <+: letter :: value
    · obtain ⟨name, hname⟩ := hmain
      rw [← hname]
      exact ⟨_, .mainPlaylist name⟩
    by_cases hletter : letter ∈ letters
    · obtain hletter | hletter := List.mem_append.1 hletter
      · obtain ⟨⟨letter, make⟩, h, rfl⟩ := List.mem_map.1 hletter
        exact ⟨_, .text h value⟩
      · obtain ⟨⟨letter, bits, make⟩, h, rfl⟩ := List.mem_map.1 hletter
        exact exists_means_number h value
    · exact ⟨_, .unknown hletter (fun k hk hname => hkeyword ⟨k, hk, hname⟩) hmain⟩

/-- The reader says what a line means once the line breaks at its end are gone, and says nothing
else: so a line means one thing only. -/
theorem read_eq_iff (line : Text) (result : Except CommandError Command) :
    read line = result ↔ ∃ rest, Text.CutEnd isBreak line rest ∧ Means rest result := by
  have hread {r : Except CommandError Command} (h : Means (line.dropEnd isBreak) r) :
      read line = r := by
    rw [← read_dropEnd]
    exact h.read_eq fun _ => Text.not_of_getLast?_dropEnd
  constructor
  · rintro rfl
    obtain ⟨r, hr⟩ := exists_means (line.dropEnd isBreak)
    rw [hread hr]
    exact ⟨_, Text.dropEnd_eq_iff.1 rfl, hr⟩
  · rintro ⟨rest, hrest, hmeans⟩
    rw [← Text.dropEnd_eq_iff] at hrest
    exact hread (hrest ▸ hmeans)

example : read "N +04294967295 \r\n".toList = .ok (trackNumber 4294967295) ∧
    read "N4294967296".toList = .error (.invalidNumber 'N' "4294967296".toList) := by
  decide +kernel

end RadioText.Command
