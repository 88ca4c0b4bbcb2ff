import RadioText.Text

/-! Sets of characters, for tables of the many that share a property. -/
namespace RadioText

/-- The first and last code point of each run of members, in ascending order. -/
structure CharSet where
  runs : Array (Nat × Nat)

namespace CharSet

/-- Whether one of the runs numbered `low` up to `high`, the latter excluded, holds `n`. -/
def search (s : CharSet) (n low high : Nat) : Bool :=
  if low < high then
    let middle := (low + high) / 2
    match s.runs[middle]? with
    | none => false
    | some (first, last) =>
      if n < first then s.search n low middle
      else if last < n then s.search n (middle + 1) high
      else true
  else false
termination_by high - low

def contains (s : CharSet) (c : Char) : Bool := s.search c.toNat 0 s.runs.size

end CharSet
end RadioText
