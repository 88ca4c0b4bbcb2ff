import RadioText.Config.Value
import RadioText.Text.Decimal

/-! Where in the tree of settings a value is: a name, then names after points and indices in
brackets. -/
namespace RadioText.Config

inductive PathStep
  | key (name : Text)
  | index (i : Int)
deriving DecidableEq

abbrev Path := List PathStep

namespace Path

def isNameChar (c : Char) : Bool := c.isAlphanum || c == '_' || c == '-' || c == ' '

def isGap (c : Char) : Bool := c == ' ' || c == '\t'

/-- Largest index, and how far below zero the smallest is. -/
def indexLimit : Nat := 1 <<< 63

def readName (t : Text) : Option (Text × Text) :=
  let name := t.takeWhile isNameChar
  if name.isEmpty then none else some (name, t.dropWhile isNameChar)

/-- An index after its opening bracket. -/
def readIndex (t : Text) : Option (Int × Text) :=
  let t := t.dropWhile isGap
  let (negative, t) := match t with
    | '-' :: rest => (true, rest)
    | _ => (false, t)
  let digits := t.takeWhile Decimal.isDigit
  let rest := (t.dropWhile Decimal.isDigit).dropWhile isGap
  let n := Decimal.value digits
  match rest with
  | ']' :: rest =>
    if digits.isEmpty then none
    else if negative then if n ≤ indexLimit then some (-n, rest) else none
    else if n < indexLimit then some (n, rest) else none
  | _ => none

/-- The steps after the first name; `fuel` bounds their number. -/
def readSteps (fuel : Nat) (done : Path) (t : Text) : Option Path :=
  match fuel, t with
  | _, [] => some done.reverse
  | 0, _ => none
  | fuel + 1, '.' :: rest => do
    let (name, rest) ← readName rest
    readSteps fuel (.key name :: done) rest
  | fuel + 1, '[' :: rest => do
    let (i, rest) ← readIndex rest
    readSteps fuel (.index i :: done) rest
  | _, _ => none

def read (t : Text) : Option Path := do
  let (name, rest) ← readName t
  readSteps rest.length [.key name] rest

/-- Store a value at a path, making the tables and lists on the way. -/
def set (v : Value) : Path → Value → Value
  | [], into => into
  | [.key k], into => into.set k v
  | [.index i], into => into.updateAt i fun _ => v
  | .key k :: rest, into => into.update k (set v rest)
  | .index i :: rest, into => into.updateAt i (set v rest)

end Path
end RadioText.Config
