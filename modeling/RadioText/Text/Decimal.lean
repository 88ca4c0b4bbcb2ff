import RadioText.Text

/-! Whole numbers in decimal. Writing has no superfluous zeros; reading allows them,
and a plus sign in front. -/
namespace RadioText.Decimal

def digit (n : Nat) : Char := Char.ofNat ('0'.toNat + n)

def isDigit (c : Char) : Bool := '0' ≤ c && c ≤ '9'

def digitValue (c : Char) : Nat := c.toNat - '0'.toNat

/-- The digits of a number, the most significant first. -/
def write (n : Nat) : Text :=
  if n < 10 then [digit n] else write (n / 10) ++ [digit (n % 10)]

/-- At least two digits. -/
def writeTwo (n : Nat) : Text := if n < 10 then ['0', digit n] else write n

/-- The number that a row of digits stands for; `0` for no digit. -/
def value (digits : Text) : Nat := digits.foldl (fun n c => 10 * n + digitValue c) 0

def readDigits? (t : Text) : Option Nat :=
  if t ≠ [] ∧ t.all isDigit then some (value t) else none

/-- Digits with an optional plus sign, for a number below `bound`. -/
def read? (bound : Nat) (t : Text) : Option Nat :=
  let digits := match t with
    | '+' :: rest => rest
    | _ => t
  (readDigits? digits).filter (· < bound)

def writeInt : Int → Text
  | .ofNat n => write n
  | .negSucc n => '-' :: write (n + 1)

end RadioText.Decimal
