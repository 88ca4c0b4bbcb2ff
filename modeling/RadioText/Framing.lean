import RadioText.Text

/-! Cutting text to what a receiver shows. Program Service (PS) shows eight characters at a time,
RadioText (RT) a line of 32 or 64 that a carriage return ends early. Sizes count characters. -/
namespace RadioText

/-- Characters on one PS screen. -/
def psSize : Nat := 8

/-- Ends a RadioText line that is shorter than its buffer. -/
def rtEnd : Char := '\r'

/-- Eight characters at a time, the last ones filled up with spaces. -/
def psScreens (t : Text) : List Text :=
  if t.length ≤ psSize then [t ++ List.replicate (psSize - t.length) ' ']
  else t.take psSize :: psScreens (t.drop psSize)
termination_by t.length
decreasing_by simp [psSize] at *; omega

/-- At most `size` characters, with an end mark if there is room for one. -/
def rtFrame (t : Text) (size : Nat) : Text :=
  if t.length < size then t ++ [rtEnd] else t.take size

end RadioText
