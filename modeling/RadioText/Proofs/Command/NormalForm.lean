import RadioText.Proofs.Command

/-! Commands written and read again, and lines read and written again. What is written comes back as
a command of the same kind, with its text less the line breaks at the end; what was read comes back
whole. A line read and written again keeps its text; of a number it keeps what the number is. -/
namespace RadioText

/-- A text that is read as a number: the digits, with zeros and a plus sign allowed in front of them
and white space around; or nothing but white space. -/
inductive Decimal.StandsFor : Text → Nat → Prop
  | blank {t : Text} (h : t.blank = true) : StandsFor t 0
  | digits {before sign after : Text} (hbefore : before.blank = true)
      (hsign : sign = [] ∨ sign = ['+']) (zeros n : Nat) (hafter : after.blank = true) :
      StandsFor (before ++ (sign ++ (List.replicate zeros '0' ++ write n)) ++ after) n

theorem Decimal.exists_spelling {bound n : Nat} {t : Text} (h : read? bound t = some n) :
    ∃ sign zeros, (sign = [] ∨ sign = ['+']) ∧
      t = sign ++ (List.replicate zeros '0' ++ write n) := by
  obtain ⟨sign, digits, hsign, rfl, hread⟩ := numeral_iff.1 (read?_eq_some_iff.1 h).1
  rw [readDigits?] at hread
  split at hread
  · rename_i hall
    cases hread
    obtain ⟨zeros, hzeros⟩ := exists_zeros hall.1 (List.all_eq_true.1 hall.2)
    exact ⟨sign, zeros, hsign, congrArg (sign ++ ·) hzeros⟩
  · cases hread

namespace Command

def number? : Command → Option Nat
  | trackNumber n | playlistPosition n | playlistCount n => some n.toNat
  | trackLength n => some n.toNat
  | _ => none

def mapText (f : Text → Text) : Command → Command
  | title t => title (f t)
  | artist t => artist (f t)
  | album t => album (f t)
  | genre t => genre (f t)
  | mainPlaylist name => mainPlaylist (f name)
  | c => c

theorem mapText_of_none {c : Command} (h : c.payload? = none) (f : Text → Text) :
    c.mapText f = c := by
  cases c <;> first | rfl | cases h

theorem mapText_eq_self_iff {c : Command} {f : Text → Text} :
    c.mapText f = c ↔ ∀ t, c.payload? = some t → f t = t := by
  cases c <;> simp [mapText, payload?]

/-- A text stands at the end of its line, behind letters that do not depend on it. -/
theorem exists_write {c : Command} {t : Text} (h : c.payload? = some t) :
    ∃ front : Text, front.Unbroken ∧ c.write = front ++ t ∧
      ∀ f, (c.mapText f).write = front ++ f t := by
  have letter {l : Char} (hl : isBreak l = false) : Text.Unbroken [l] := by
    simpa [Text.Unbroken] using hl
  cases c with
  | title | artist | album | genre =>
    cases h
    exact ⟨[_], letter rfl, rfl, fun _ => rfl⟩
  | mainPlaylist =>
    cases h
    exact ⟨_, Text.unbroken_of_all rfl, rfl, fun _ => rfl⟩
  | _ => cases h

/-- Line breaks at the end of a line are those at the end of the command's text. -/
theorem write_mapText (c : Command) :
    (c.mapText (Text.dropEnd isBreak)).write = c.write.dropEnd isBreak := by
  cases h : c.payload? with
  | none =>
    have hunbroken : Text.Unbroken c.write := unbroken_write (by simp [h])
    rw [mapText_of_none h, Text.dropEnd_of_forall hunbroken]
  | some t =>
    obtain ⟨front, hfront, hwrite, hmap⟩ := exists_write h
    rw [hwrite, hmap, Text.dropEnd_append fun c hc => hfront c (List.mem_of_getLast? hc)]

theorem read_dropEnd (line : Text) : read (line.dropEnd isBreak) = read line := by
  have hagain : Text.dropEnd isBreak (line.dropEnd isBreak) = line.dropEnd isBreak :=
    Text.dropEnd_eq_self fun _ => Text.not_of_getLast?_dropEnd
  simp only [read, hagain]

theorem read_write_mapText (c : Command) :
    read c.write = .ok (c.mapText (Text.dropEnd isBreak)) := by
  rw [← read_dropEnd, ← write_mapText]
  refine read_write fun t ht b hb => ?_
  cases h : c.payload? with
  | none => simp [mapText_of_none h, h] at ht
  | some u =>
    have hdropped : t = u.dropEnd isBreak := by
      cases c <;> cases h <;> cases ht <;> rfl
    rw [hdropped] at hb
    exact Text.not_of_getLast?_dropEnd hb

theorem number_eq_ok {bound n : Nat} {letter : Char} {value : Text} (hbound : 0 < bound)
    (h : number bound letter value = .ok n) : n < bound ∧ Decimal.StandsFor value n := by
  obtain ⟨before, after, hvalue, hbefore, hafter⟩ := Text.exists_trim value
  unfold number at h
  simp only at h
  split at h
  · rename_i hempty
    cases h
    rw [List.isEmpty_iff] at hempty
    refine ⟨hbound, .blank ?_⟩
    rw [hvalue, hempty, List.append_nil, Text.blank, List.all_append, Bool.and_eq_true]
    exact ⟨hbefore, hafter⟩
  · split at h
    · rename_i m hread
      cases h
      obtain ⟨sign, zeros, hsign, htrim⟩ := Decimal.exists_spelling hread
      rw [hvalue, htrim]
      exact ⟨of_decide_eq_true (Option.filter_eq_some_iff.1 hread).2,
        .digits hbefore hsign zeros n hafter⟩
    · cases h

/-- What a line and the command read from it have in common: all of the line but the line breaks at
its end, or the first letter and the number. -/
def Retells (line : Text) (c : Command) : Prop :=
  match c.number? with
  | none => c.write = line.dropEnd isBreak
  | some n => ∃ letter value, line.dropEnd isBreak = letter :: value ∧
      Decimal.StandsFor value n ∧ c.write = letter :: Decimal.write n

theorem lettered_eq_ok {line : Text} {letter : Char} {value : Text} {c : Command}
    (hline : line.dropEnd isBreak = letter :: value)
    (h : lettered (letter :: value) letter value = .ok c) : Retells line c := by
  have hnumber {bound : Nat} (hbound : 0 < bound) {make : Nat → Command}
      (hmap : (number bound letter value).map make = .ok c)
      (hmake : ∀ n < bound, (make n).number? = some n ∧
        (make n).write = letter :: Decimal.write n) : Retells line c := by
    cases hn : number bound letter value with
    | error err =>
      rw [hn] at hmap
      cases hmap
    | ok n =>
      rw [hn] at hmap
      cases hmap
      obtain ⟨hlt, hstands⟩ := number_eq_ok hbound hn
      obtain ⟨hsome, hwrite⟩ := hmake n hlt
      rw [Retells, hsome]
      exact ⟨letter, value, hline, hstands, hwrite⟩
  have h32 {n : Nat} (hn : n < UInt32.size) : (UInt32.ofNat n).toNat = n :=
    UInt32.toNat_ofNat_of_lt' hn
  have h64 {n : Nat} (hn : n < UInt64.size) : (UInt64.ofNat n).toNat = n :=
    UInt64.toNat_ofNat_of_lt' hn
  unfold lettered at h
  split at h
  · cases h
    exact hline.symm
  · cases h
    exact hline.symm
  · cases h
    exact hline.symm
  · cases h
    exact hline.symm
  · exact hnumber (by decide) h fun n hn =>
      ⟨congrArg some (h32 hn), congrArg ('N' :: Decimal.write ·) (h32 hn)⟩
  · exact hnumber (by decide) h fun n hn =>
      ⟨congrArg some (h64 hn), congrArg ('L' :: Decimal.write ·) (h64 hn)⟩
  · exact hnumber (by decide) h fun n hn =>
      ⟨congrArg some (h32 hn), congrArg ('P' :: Decimal.write ·) (h32 hn)⟩
  · exact hnumber (by decide) h fun n hn =>
      ⟨congrArg some (h32 hn), congrArg ('C' :: Decimal.write ·) (h32 hn)⟩
  · cases h

theorem keyword?_eq_some {line : Text} {c : Command} (h : keyword? line = some c) :
    c.number? = none ∧ c.write = line := by
  unfold keyword? at h
  have hkeywords : ∀ k ∈ [init, start, stop, reset, update, exit], k.number? = none := by decide
  have hwrite := List.find?_some h
  exact ⟨hkeywords c (List.mem_of_find?_eq_some h), of_decide_eq_true hwrite⟩

theorem retells_of_read {line : Text} {c : Command} (h : read line = .ok c) : Retells line c := by
  unfold read at h
  simp only at h
  split at h
  · cases h
  · rename_i letter value hline
    split at h
    · rename_i keyword hkeyword
      cases h
      obtain ⟨hnone, hwrite⟩ := keyword?_eq_some hkeyword
      rw [Retells, hnone]
      exact hwrite
    · split at h
      · rename_i name hname
        cases h
        exact (Text.eq_append_of_after? hname).symm
      · exact lettered_eq_ok hline (hline ▸ h)

theorem read_write_of_read {line : Text} {c : Command} (h : read line = .ok c) :
    read c.write = .ok c := by
  refine read_write fun t ht b hb => ?_
  have hretells := retells_of_read h
  have hnone : c.number? = none := by cases c <;> first | rfl | cases ht
  rw [Retells, hnone] at hretells
  obtain ⟨front, _, hwrite, _⟩ := exists_write ht
  refine Text.not_of_getLast?_dropEnd (p := isBreak) (t := line) ?_
  rw [← hretells, hwrite, List.getLast?_append, hb]
  rfl

/-- A command comes back from its line unless it has a text that ends in a line break; then it comes
back without these, and no text makes it a command of another kind. A line that is a command is a
normal form once it is written again: it reads as the same command, has lost nothing of a text, and
of a number only sign, zeros and white space. -/
theorem read_write_iff :
    (∀ c : Command,
      (read c.write = .ok c ↔
        ∀ t, c.payload? = some t → t.getLast? ≠ some '\r' ∧ t.getLast? ≠ some '\n') ∧
      read c.write = .ok (c.mapText (Text.dropEnd isBreak))) ∧
    ∀ line c, read line = .ok c → read c.write = .ok c ∧ Retells line c := by
  refine ⟨fun c => ⟨?_, read_write_mapText c⟩,
    fun line c h => ⟨read_write_of_read h, retells_of_read h⟩⟩
  have hends {t : Text} : (∀ b, t.getLast? = some b → isBreak b = false) ↔
      t.getLast? ≠ some '\r' ∧ t.getLast? ≠ some '\n' := by
    cases t.getLast? <;> simp [isBreak]
  rw [read_write_mapText, Except.ok.injEq, mapText_eq_self_iff]
  simp only [Text.dropEnd_eq_self_iff, hends]

/-- A length with more than its digits, and a title that is a keyword and has a line break. -/
theorem read_write_iff_length :
    let line := "L +0185\t\r\n".toList
    read line = .ok (trackLength 185) ∧
      (read (trackLength 185).write = .ok (trackLength 185) ∧ Retells line (trackLength 185)) ∧
      (trackLength 185).write = "L185".toList ∧
      read (title "STOP\r".toList).write = .ok (title "STOP".toList) := by
  intro line
  have hread : read line = .ok (trackLength 185) := rfl
  refine ⟨hread, read_write_iff.2 line _ hread, by decide +kernel, ?_⟩
  exact (read_write_iff.1 _).2

end Command
end RadioText
