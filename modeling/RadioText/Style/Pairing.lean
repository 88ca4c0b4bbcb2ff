import RadioText.Style.Token

/-! Which brackets have a partner. An opening bracket is paired with the nearest closing bracket
to its right that no bracket between them takes; pipes do not interrupt a pair.

An opening bracket has a partner when, reading from the right, some closing bracket is still
free; for a closing bracket the same holds with the sides exchanged. -/
namespace RadioText.Pairing

/-- Reading from the right: how many `closer`s are free, and for each token whether it is an
`opener` that takes one. -/
def takers (opener closer : Token) (ts : List Token) : Nat × List Bool :=
  ts.foldr (fun t (free, flags) =>
    if t = closer then (free + 1, false :: flags)
    else if t = opener then (free - 1, decide (0 < free) :: flags)
    else (free, false :: flags)) (0, [])

def openers (ts : List Token) : List Bool := (takers .groupOpen .groupClose ts).2

def closers (ts : List Token) : List Bool :=
  (takers .groupClose .groupOpen ts.reverse).2.reverse

/-- For each token whether it is a bracket with a partner. -/
def paired (ts : List Token) : List Bool := List.zipWith (· || ·) (openers ts) (closers ts)

end RadioText.Pairing
