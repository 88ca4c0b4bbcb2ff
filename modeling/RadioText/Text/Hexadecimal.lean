import RadioText.Text

/-! Hexadecimal digits, and characters by their numbers. -/
namespace RadioText.Hexadecimal

def digit? (c : Char) : Option Nat :=
  if '0' ≤ c ∧ c ≤ '9' then some (c.toNat - '0'.toNat)
  else if 'a' ≤ c ∧ c ≤ 'f' then some (c.toNat - 'a'.toNat + 10)
  else if 'A' ≤ c ∧ c ≤ 'F' then some (c.toNat - 'A'.toNat + 10)
  else none

/-- The number that the first `n` characters of a text stand for, if all of them are digits. -/
def number? (n : Nat) (t : Text) : Option Nat := do
  let digits ← (t.take n).mapM digit?
  if digits.length = n then some (digits.foldl (fun v d => 16 * v + d) 0) else none

/-- The character with the number that the first `n` characters of a text stand for. -/
def char? (n : Nat) (t : Text) : Option Char := do
  let v ← number? n t
  if v.isValidChar then some (Char.ofNat v) else none

end RadioText.Hexadecimal
