import RadioText.Text.LowerCase

/-! Settings before they have a type: a tree of tables and lists, each value with the file that it
comes from. Names of settings ignore case. -/
namespace RadioText.Config

inductive Scalar
  | null
  | boolean (b : Bool)
  | integer (i : Int)
  | number (x : Float)
  | text (t : Text)

inductive Value
  | scalar (origin : Option Text) (s : Scalar)
  | table (origin : Option Text) (entries : List (Text × Value))
  | list (origin : Option Text) (items : List Value)

namespace Value

def origin : Value → Option Text
  | scalar o _ => o
  | table o _ => o
  | list o _ => o

def null : Value := .scalar none .null

/-- The entries of a table; any other value counts as a table without entries. -/
def entries : Value → List (Text × Value)
  | table _ es => es
  | _ => []

def tableOrigin : Value → Option Text
  | table o _ => o
  | _ => none

def items : Value → List Value
  | list _ vs => vs
  | _ => []

def listOrigin : Value → Option Text
  | list o _ => o
  | _ => none

def lookup (key : Text) (es : List (Text × Value)) : Option Value :=
  (es.find? (·.1 = key)).map Prod.snd

/-- Replace the entry of a key, or add one. -/
def put (key : Text) (v : Value) : List (Text × Value) → List (Text × Value)
  | [] => [(key, v)]
  | e :: es => if e.1 = key then (key, v) :: es else e :: put key v es

/-- Store a value in a table under a key. A table is merged into what is there, key by key; any
other value replaces it. -/
def set (into : Value) (key : Text) (v : Value) : Value :=
  let key := key.lower
  match v with
  | table _ incoming =>
    let target := (lookup key into.entries).getD (.table none [])
    let merged := incoming.attach.foldl (fun t ⟨e, _⟩ => t.set e.1 e.2) target
    .table into.tableOrigin (put key merged into.entries)
  | other => .table into.tableOrigin (put key other into.entries)
termination_by sizeOf v
decreasing_by
  rename_i h
  have := List.sizeOf_lt_of_mem h
  cases e
  simp at this ⊢
  omega

/-- Change the entry of a key, which is null if it is not there. -/
def update (key : Text) (f : Value → Value) (into : Value) : Value :=
  let key := key.lower
  .table into.tableOrigin (put key (f ((lookup key into.entries).getD null)) into.entries)

/-- The place an index means in a list of `n`; a negative index counts from the end. -/
def place (n : Nat) (i : Int) : Nat := if 0 ≤ i then i.toNat else n - (-i).toNat

/-- Change the item at an index, after adding nulls up to it. -/
def updateAt (i : Int) (f : Value → Value) (into : Value) : Value :=
  let vs := into.items
  let n := place vs.length i
  let vs := vs ++ List.replicate (n + 1 - vs.length) null
  .list into.listOrigin (vs.modify n f)

end Value
end RadioText.Config
