import Mathlib.Data.List.Basic
import Mathlib.Data.List.Induction
import Mathlib.Data.Nat.Digits.Defs
import RadioText.Proofs.Text.Ends
import RadioText.Text.Decimal

/-! Numbers in decimal, written and read back. -/
namespace RadioText.Decimal

theorem isDigit_digit : ∀ d < 10, isDigit (digit d) = true := by decide

theorem digitValue_digit : ∀ d < 10, digitValue (digit d) = d := by decide

theorem toNat_of_isDigit {c : Char} (h : isDigit c = true) : 48 ≤ c.toNat ∧ c.toNat ≤ 57 := by
  simpa [isDigit, Char.le_def, UInt32.le_iff_toNat_le] using h

theorem digitValue_lt {c : Char} (h : isDigit c = true) : digitValue c < 10 := by
  have hrange := toNat_of_isDigit h
  change c.toNat - 48 < 10
  omega

theorem digit_digitValue {c : Char} (h : isDigit c = true) : digit (digitValue c) = c := by
  have hsum : 48 + (c.toNat - 48) = c.toNat := Nat.add_sub_cancel' (toNat_of_isDigit h).1
  change Char.ofNat (48 + (c.toNat - 48)) = c
  rw [hsum, Char.ofNat_toNat]

theorem isBlank_of_isDigit {c : Char} (h : isDigit c = true) : isBlank c = false := by
  have hrange := toNat_of_isDigit h
  simp [isBlank]
  omega

theorem isBreak_of_isDigit {c : Char} (h : isDigit c = true) : isBreak c = false := by
  cases hb : isBreak c with
  | false => rfl
  | true =>
    obtain rfl | rfl : c = '\r' ∨ c = '\n' := by simpa [isBreak] using hb
    all_goals exact absurd h (by decide)

theorem write_ne_nil (n : Nat) : write n ≠ [] := by
  rw [write]
  split <;> simp

theorem isDigit_of_mem_write {n : Nat} {c : Char} (h : c ∈ write n) : isDigit c = true := by
  induction n using Nat.strongRecOn generalizing c with
  | ind n ih =>
    rw [write] at h
    split at h
    · rename_i hn
      rw [List.mem_singleton.1 h]
      exact isDigit_digit n hn
    · rename_i hn
      obtain h | h := List.mem_append.1 h
      · exact ih (n / 10) (by omega) h
      · rw [List.mem_singleton.1 h]
        exact isDigit_digit _ (Nat.mod_lt n (by decide))

theorem value_concat (digits : Text) (c : Char) :
    value (digits ++ [c]) = 10 * value digits + digitValue c := by
  simp [value]

theorem value_write (n : Nat) : value (write n) = n := by
  induction n using Nat.strongRecOn with
  | ind n ih =>
    rw [write]
    split
    · rename_i hn
      simpa [value] using digitValue_digit n hn
    · rename_i hn
      rw [value_concat, ih (n / 10) (by omega), digitValue_digit _ (Nat.mod_lt n (by decide))]
      omega

theorem readDigits?_write (n : Nat) : readDigits? (write n) = some n := by
  have hdigits : (write n).all isDigit = true := List.all_eq_true.2 fun _ => isDigit_of_mem_write
  rw [readDigits?, if_pos ⟨write_ne_nil n, hdigits⟩, value_write]

theorem read?_write {bound n : Nat} (h : n < bound) : read? bound (write n) = some n := by
  have hsign : ∀ rest, write n ≠ '+' :: rest := by
    intro rest hplus
    have hdigit := isDigit_of_mem_write (n := n) (c := '+') (by simp [hplus])
    exact absurd hdigit (by decide)
  unfold read?
  split
  · rename_i digits rest hplus
    exact absurd hplus (hsign rest)
  · simp only [readDigits?_write]
    simp [h]

theorem write_digitValue {c : Char} (h : isDigit c = true) : write (digitValue c) = [c] := by
  rw [write, if_pos (digitValue_lt h), digit_digitValue h]

/-- A row of digits is the number it stands for, written out behind zeros. -/
theorem exists_zeros {digits : Text} (hne : digits ≠ [])
    (h : ∀ c ∈ digits, isDigit c = true) :
    ∃ k, digits = List.replicate k '0' ++ write (value digits) := by
  induction digits using List.reverseRecOn with
  | nil => exact absurd rfl hne
  | append_singleton front c ih =>
    have hc : isDigit c = true := h c (by simp)
    rw [value_concat]
    by_cases hnil : front = []
    · subst hnil
      exact ⟨0, by simp [value, write_digitValue hc]⟩
    obtain ⟨k, hk⟩ := ih hnil fun d hd => h d (List.mem_append_left _ hd)
    by_cases hzero : value front = 0
    · -- So far there are only zeros, and the last of them is written out.
      have hwrite : write 0 = ['0'] := write_digitValue (c := '0') rfl
      rw [hzero, hwrite] at hk
      rw [hzero, Nat.mul_zero, Nat.zero_add, write_digitValue hc]
      exact ⟨k + 1, by rw [hk, List.replicate_succ']⟩
    · have hlt := digitValue_lt hc
      have hdiv : (10 * value front + digitValue c) / 10 = value front := by omega
      have hmod : (10 * value front + digitValue c) % 10 = digitValue c := by omega
      refine ⟨k, ?_⟩
      rw [write, if_neg (by omega), hdiv, hmod, digit_digitValue hc, ← List.append_assoc, ← hk]

theorem trim_write (n : Nat) : (write n).trim = write n :=
  Text.trim_of_forall fun _ hc => isBlank_of_isDigit (isDigit_of_mem_write hc)

/-- A text is a number's digits, with a leading zero only for the number `0`. -/
structure Spells (t : Text) (n : Nat) : Prop where
  digits : ∀ c ∈ t, isDigit c = true
  value : value t = n
  plain : t.head? = some '0' → n = 0

theorem spells_write (n : Nat) : Spells (write n) n where
  digits _ := isDigit_of_mem_write
  value := value_write n
  plain h := by
    induction n using Nat.strongRecOn with
    | ind n ih =>
      rw [write] at h
      split at h
      · rename_i hn
        have hzero : digit n = '0' := Option.some.inj h
        rw [← digitValue_digit n hn, hzero]
        rfl
      · -- The first digit is that of the number without its last digit, which is not `0`.
        rename_i hn
        obtain ⟨c, rest, hfront⟩ := List.exists_cons_of_ne_nil (write_ne_nil (n / 10))
        rw [hfront, List.cons_append, List.head?_cons] at h
        have hzero := ih (n / 10) (by omega) (by rw [hfront, List.head?_cons, h])
        omega

theorem value_eq_ofDigits (digits : Text) :
    value digits = Nat.ofDigits 10 (digits.reverse.map digitValue) := by
  induction digits using List.reverseRecOn with
  | nil => rfl
  | append_singleton front c ih =>
    rw [value_concat, ih, List.reverse_append, List.reverse_singleton, List.singleton_append,
      List.map_cons, Nat.ofDigits_cons, Nat.add_comm]

inductive Numeral : Text → Nat → Prop
  | digits {sign digits : Text} (hsign : sign = [] ∨ sign = ['+']) (hne : digits ≠ [])
      (hdigits : ∀ c ∈ digits, isDigit c = true) :
      Numeral (sign ++ digits) (Nat.ofDigits 10 (digits.reverse.map digitValue))

theorem Numeral.ne_nil {t : Text} {n : Nat} (h : Numeral t n) : t ≠ [] := by
  obtain ⟨_, hne, _⟩ := h
  exact List.append_ne_nil_of_right_ne_nil _ hne

theorem numeral_iff {t : Text} {n : Nat} :
    Numeral t n ↔ ∃ sign digits, (sign = [] ∨ sign = ['+']) ∧ t = sign ++ digits ∧
      readDigits? digits = some n := by
  constructor
  · rintro ⟨hsign, hne, hdigits⟩
    exact ⟨_, _, hsign, rfl, by rw [readDigits?, if_pos ⟨hne, List.all_eq_true.2 hdigits⟩,
      value_eq_ofDigits]⟩
  · rintro ⟨sign, digits, hsign, rfl, hread⟩
    rw [readDigits?] at hread
    split at hread
    · rename_i hdigits
      cases hread
      rw [value_eq_ofDigits]
      exact .digits hsign hdigits.1 (List.all_eq_true.1 hdigits.2)
    · cases hread

/-- A numeral is read if its number is below the bound. -/
theorem read?_eq_some_iff {bound n : Nat} {t : Text} :
    read? bound t = some n ↔ Numeral t n ∧ n < bound := by
  rw [numeral_iff]
  unfold read?
  split
  · rename_i rest
    rw [Option.filter_eq_some_iff, decide_eq_true_eq]
    refine and_congr_left fun _ => ⟨fun h => ⟨['+'], rest, .inr rfl, rfl, h⟩, ?_⟩
    rintro ⟨sign, digits, rfl | rfl, ht, hread⟩
    · rw [List.nil_append] at ht
      rw [← ht] at hread
      exact absurd hread (by simp [readDigits?, isDigit])
    · cases ht
      exact hread
  · rename_i hplus
    rw [Option.filter_eq_some_iff, decide_eq_true_eq]
    refine and_congr_left fun _ => ⟨fun h => ⟨[], t, .inl rfl, rfl, h⟩, ?_⟩
    rintro ⟨sign, digits, rfl | rfl, ht, hread⟩
    · rw [ht]
      exact hread
    · exact absurd ht (hplus digits)

theorem writeTwo_eq {n : Nat} (h : n < 100) :
    writeTwo n = [digit (n / 10), digit (n % 10)] := by
  unfold writeTwo
  split
  · rename_i hn
    rw [Nat.div_eq_of_lt hn, Nat.mod_eq_of_lt hn]
    rfl
  · rename_i hn
    rw [write, if_neg hn, write, if_pos (by omega)]
    rfl

/-- Without a superfluous zero in front, a row of digits is its number as it is written. -/
theorem write_value {digits : Text} (hne : digits ≠ []) (h : ∀ c ∈ digits, isDigit c = true)
    (hplain : digits.head? = some '0' → digits = ['0']) : write (value digits) = digits := by
  obtain ⟨k, hk⟩ := exists_zeros hne h
  cases k with
  | zero => exact hk.symm
  | succ k =>
    have hzero : digits = ['0'] := hplain (by rw [hk, List.replicate_succ]; rfl)
    rw [hzero]
    exact write_digitValue (c := '0') rfl

theorem write_eq_of_head? {n : Nat} (h : (write n).head? = some '0') : write n = ['0'] := by
  rw [(spells_write n).plain h]
  exact write_digitValue (c := '0') rfl

theorem length_writeTwo {n : Nat} (h : n < 100) : (writeTwo n).length = 2 := by
  rw [writeTwo_eq h]
  rfl

theorem isDigit_of_mem_writeTwo {n : Nat} (h : n < 100) {c : Char} (hc : c ∈ writeTwo n) :
    isDigit c = true := by
  rw [writeTwo_eq h] at hc
  rcases List.mem_pair.1 hc with rfl | rfl
  · exact isDigit_digit _ (by omega)
  · exact isDigit_digit _ (by omega)

theorem value_writeTwo {n : Nat} (h : n < 100) : value (writeTwo n) = n := by
  have hten : digitValue (digit (n / 10)) = n / 10 := digitValue_digit _ (by omega)
  have hone : digitValue (digit (n % 10)) = n % 10 := digitValue_digit _ (by omega)
  simp only [writeTwo_eq h, value, List.foldl_cons, List.foldl_nil, hten, hone]
  omega

theorem writeTwo_value {digits : Text} (htwo : digits.length = 2)
    (h : ∀ c ∈ digits, isDigit c = true) : writeTwo (value digits) = digits := by
  obtain ⟨a, b, rfl⟩ := List.length_eq_two.1 htwo
  obtain ⟨ha, hb⟩ : isDigit a = true ∧ isDigit b = true := by simpa using h
  have halt := digitValue_lt ha
  have hblt := digitValue_lt hb
  have hvalue : value [a, b] = 10 * digitValue a + digitValue b := by simp [value]
  have hten : (10 * digitValue a + digitValue b) / 10 = digitValue a := by omega
  have hone : (10 * digitValue a + digitValue b) % 10 = digitValue b := by omega
  rw [hvalue, writeTwo_eq (by omega), hten, hone, digit_digitValue ha, digit_digitValue hb]

end RadioText.Decimal
