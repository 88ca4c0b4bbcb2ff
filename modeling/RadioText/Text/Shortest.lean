import RadioText.Text.Decimal

/-! Binary floating point numbers of 64 bits in decimal: the fewest digits that read back as the
same number, and of these the nearest to it. -/
namespace RadioText.Shortest

/-- A positive number as mantissa and binary exponent, and whether the gap to the next smaller
number is only half the gap to the next larger one. -/
structure Binary where
  mantissa : Nat
  exponent : Int
  narrow : Bool

def Binary.ofBits (bits : UInt64) : Binary :=
  let fraction := (bits &&& 0xFFFFFFFFFFFFF).toNat
  let biased := ((bits >>> 52) &&& 0x7FF).toNat
  if biased = 0 then ⟨fraction, -1074, false⟩
  else ⟨fraction + 0x10000000000000, (biased : Int) - 1075, fraction = 0 && biased > 1⟩

/-- `n · b ^ e` as a fraction. -/
def scaled (n b : Nat) (e : Int) : Nat × Nat := (n * b.pow e.toNat, b.pow (-e).toNat)

def less (x y : Nat × Nat) : Bool := x.1 * y.2 < y.1 * x.2

def lessEq (x y : Nat × Nat) : Bool := x.1 * y.2 ≤ y.1 * x.2

/-- Whether a fraction is read as the number. -/
def Binary.covers (x : Binary) (y : Nat × Nat) : Bool :=
  let low := if x.narrow then scaled (4 * x.mantissa - 1) 2 (x.exponent - 2)
    else scaled (2 * x.mantissa - 1) 2 (x.exponent - 1)
  let high := scaled (2 * x.mantissa + 1) 2 (x.exponent - 1)
  if x.mantissa % 2 = 0 then lessEq low y && lessEq y high else less low y && less y high

/-- The power of ten of the first digit of a fraction. -/
def leading (x : Nat × Nat) : Int :=
  if x.2 ≤ x.1 then (Decimal.write (x.1 / x.2)).length - 1
  else
    match (List.range 400).find? fun j => x.2 ≤ x.1 * Nat.pow 10 j with
    | some j => -j
    | none => 0

/-- Of the two neighbours with a last digit at the power `k` of ten, the nearest that covers. -/
def Binary.neighbour? (x : Binary) (k : Int) : Option Nat :=
  let v := scaled x.mantissa 2 x.exponent
  let q := v.1 * Nat.pow 10 (-k).toNat / (v.2 * Nat.pow 10 k.toNat)
  let below := x.covers (scaled q 10 k)
  let above := x.covers (scaled (q + 1) 10 k)
  let middle := scaled (2 * q + 1) 10 k
  if below && above then some (if less (2 * v.1, v.2) middle then q else q + 1)
  else if below then some q
  else if above then some (q + 1)
  else none

/-- Digits and the power of ten of the last one. Rounding up to a power of ten leaves a zero at
the end, which is not written. -/
def Binary.decimal (x : Binary) : Nat × Int :=
  let top := leading (scaled x.mantissa 2 x.exponent)
  let attempt (n : Nat) : Option (Nat × Int) :=
    let k := top - n
    (x.neighbour? k).map fun q => if q % 10 = 0 then (q / 10, k + 1) else (q, k)
  ((List.range 17).findSome? attempt).getD (0, 0)

/-- Digits with the point set; no exponent is written. -/
def positional (digits : Text) (k : Int) : Text :=
  if 0 ≤ k then digits ++ List.replicate k.toNat '0'
  else
    let places := (-k).toNat
    let padded := List.replicate (places + 1 - digits.length) '0' ++ digits
    padded.take (padded.length - places) ++ '.' :: padded.drop (padded.length - places)

/-- A number of 64 bits; whole numbers have no point. -/
def write (x : Float) : Text :=
  if x.isNaN then "NaN".toList
  else
    let sign := if x.toBits >>> 63 = 1 then ['-'] else []
    let magnitude :=
      if x.isInf then "inf".toList
      else
        let b := Binary.ofBits x.toBits
        if b.mantissa = 0 then ['0']
        else
          let (digits, k) := b.decimal
          positional (Decimal.write digits) k
    sign ++ magnitude

/-- The nearest whole number with no more than 53 binary digits before its zeros at the end; of two
the one with an even last digit before them. -/
def nearest (n : Nat) : Nat :=
  let unit := 1 <<< (n.log2 - 52)
  let below := n / unit
  let rest := n % unit
  unit * if unit < 2 * rest ∨ unit = 2 * rest ∧ below % 2 = 1 then below + 1 else below

/-- The smallest whole number that is too large, the middle between the largest number there is and
the next one there would be. -/
def tooLarge : Nat := Nat.pow 2 1024 - Nat.pow 2 970

/-- Whether `digits · 10 ^ exponent` is too large; digits do not begin with zero. -/
def overflows (digits : Text) (exponent : Int) : Bool :=
  let size := digits.length + exponent
  if digits.isEmpty || size < 309 then false
  else if size > 309 then true
  else
    let x := scaled (Decimal.value digits) 10 exponent
    tooLarge * x.2 ≤ x.1

/-- The nearest number to `digits · 10 ^ exponent`. -/
def read (negative : Bool) (digits : Nat) (exponent : Int) : Float :=
  let size := (Decimal.write digits).length + exponent
  let magnitude : Float :=
    if digits = 0 ∨ size < -400 then 0
    else if size > 400 then 1 / 0
    else if exponent < 0 then Float.ofScientific digits true (-exponent).toNat
    else Float.ofScientific digits false exponent.toNat
  if negative then -magnitude else magnitude

end RadioText.Shortest
