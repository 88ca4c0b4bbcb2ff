import RadioText.Command
import RadioText.Proofs.Text.Decimal

/-! Commands read back from their lines. The first letter of a line decides what it is read as, and
no text behind it can change that; only line breaks at its end get lost. -/
namespace RadioText.Command

def payload? : Command → Option Text
  | title t | artist t | album t | genre t | mainPlaylist t => some t
  | _ => none

def keywordLetters : List Char := ['I', 'S', 'R', 'U', 'E']

theorem keyword?_eq_none {letter : Char} (h : letter ∉ keywordLetters) (value : Text) :
    keyword? (letter :: value) = none := by
  have hhead : [init, start, stop, reset, update, exit].all
      (fun c => c.write.head?.all keywordLetters.contains) = true := rfl
  unfold keyword?
  rw [List.find?_eq_none]
  intro c hc heq
  have hletter := List.all_eq_true.1 hhead c hc
  rw [of_decide_eq_true heq, List.head?_cons, Option.all_some] at hletter
  exact h (List.contains_iff_mem.1 hletter)

def Plain (letter : Char) : Prop := letter ∉ keywordLetters ∧ letter ≠ 'M' ∧ isBreak letter = false
deriving Decidable

theorem read_plain {letter : Char} (hl : Plain letter) {value : Text}
    (hv : ∀ c, value.getLast? = some c → isBreak c = false) :
    read (letter :: value) = lettered (letter :: value) letter value := by
  obtain ⟨hkeyword, hmain, hbreak⟩ := hl
  have hfirst : ∀ c, [letter].getLast? = some c → isBreak c = false := by
    intro c hc
    cases hc
    exact hbreak
  have hdrop : Text.dropEnd isBreak (letter :: value) = letter :: value :=
    Text.dropEnd_append_eq_self hfirst hv
  have hafter : Text.after? "MAINLIST".toList (letter :: value) = none := by
    change (if 'M' = letter then _ else none) = none
    rw [if_neg (Ne.symm hmain)]
  unfold read
  simp only [hdrop, keyword?_eq_none hkeyword, hafter]

theorem read_mainPlaylist {name : Text} (h : ∀ c, name.getLast? = some c → isBreak c = false) :
    read ("MAINLIST".toList ++ name) = .ok (mainPlaylist name) := by
  have hfirst : ∀ c, "MAINLIST".toList.getLast? = some c → isBreak c = false := by
    intro c hc
    have hlast : 'T' = c := Option.some.inj hc
    rw [← hlast]
    rfl
  have hdrop := Text.dropEnd_append_eq_self hfirst h
  have hcons : "MAINLIST".toList ++ name = 'M' :: ("AINLIST".toList ++ name) := rfl
  have hkeyword := keyword?_eq_none (show 'M' ∉ keywordLetters by decide)
    ("AINLIST".toList ++ name)
  have hafter := Text.after?_append "MAINLIST".toList name
  rw [hcons] at hdrop hafter ⊢
  unfold read
  simp only [hdrop, hkeyword, hafter]

theorem number_write {bound n : Nat} (h : n < bound) (letter : Char) :
    number bound letter (Decimal.write n) = .ok n := by
  unfold number
  simp only [Decimal.trim_write, Decimal.read?_write h]
  rw [if_neg (by simpa using Decimal.write_ne_nil n)]

theorem read_number (letter : Char) (make : Nat → Command) (hl : Plain letter) {bound n : Nat}
    (h : n < bound) (hmake : ∀ value, lettered (letter :: value) letter value =
      (number bound letter value).map make) :
    read (letter :: Decimal.write n) = .ok (make n) := by
  have hclean : ∀ c, (Decimal.write n).getLast? = some c → isBreak c = false := by
    intro c hc
    exact Decimal.isBreak_of_isDigit (Decimal.isDigit_of_mem_write (List.mem_of_getLast? hc))
  rw [read_plain hl hclean, hmake, number_write h]
  rfl

theorem read_write {c : Command}
    (h : ∀ t, c.payload? = some t → ∀ b, t.getLast? = some b → isBreak b = false) :
    read c.write = .ok c := by
  cases c with
  | init | start | stop | reset | update | exit => rfl
  | title t | artist t | album t | genre t => exact read_plain (by decide) (h t rfl)
  | trackNumber n =>
    have hread := read_number 'N' (fun n => trackNumber (.ofNat n)) (by decide)
      n.toNat_lt_size fun _ => rfl
    rwa [UInt32.ofNat_toNat] at hread
  | trackLength n =>
    have hread := read_number 'L' (fun n => trackLength (.ofNat n)) (by decide)
      n.toNat_lt_size fun _ => rfl
    rwa [UInt64.ofNat_toNat] at hread
  | playlistPosition n =>
    have hread := read_number 'P' (fun n => playlistPosition (.ofNat n)) (by decide)
      n.toNat_lt_size fun _ => rfl
    rwa [UInt32.ofNat_toNat] at hread
  | playlistCount n =>
    have hread := read_number 'C' (fun n => playlistCount (.ofNat n)) (by decide)
      n.toNat_lt_size fun _ => rfl
    rwa [UInt32.ofNat_toNat] at hread
  | mainPlaylist name => exact read_mainPlaylist (h name rfl)

/-- A line breaks off only where a text of its command does. -/
theorem unbroken_write {c : Command} (h : ∀ t, c.payload? = some t → t.Unbroken) :
    Text.Unbroken c.write := by
  have letter {l : Char} (hl : isBreak l = false) {value : Text} (hv : value.Unbroken) :
      Text.Unbroken (l :: value) := by
    intro c hc
    obtain rfl | hc := List.mem_cons.1 hc
    · exact hl
    · exact hv c hc
  have number (n : Nat) : Text.Unbroken (Decimal.write n) := fun _ hc =>
    Decimal.isBreak_of_isDigit (Decimal.isDigit_of_mem_write hc)
  cases c with
  | init | start | stop | reset | update | exit => exact Text.unbroken_of_all rfl
  | title t | artist t | album t | genre t => exact letter rfl (h t rfl)
  | trackNumber | trackLength | playlistPosition | playlistCount => exact letter rfl (number _)
  | mainPlaylist name =>
    have hword : Text.Unbroken "MAINLIST".toList := Text.unbroken_of_all rfl
    exact hword.append (h name rfl)

end RadioText.Command
