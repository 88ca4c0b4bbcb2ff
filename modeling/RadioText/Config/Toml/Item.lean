import RadioText.Config.Toml.Moment
import RadioText.Config.Value

/-! What a TOML document holds while it is being read, and the tree of settings it comes to. -/
namespace RadioText.Config.Toml

/-- A value or table. A table may be there only because a longer name mentions it (`implicit`), in a
header or before the last point of a key (`dotted`). -/
inductive Item
  | scalar (s : Scalar)
  /-- A date, a time or both. -/
  | moment (t : Text)
  | list (items : List Item)
  /-- A table in braces, which takes no more entries. -/
  | closed (entries : List (Text × Item))
  | table (implicit dotted : Bool) (entries : List (Text × Item))
  /-- The tables of one name in double brackets, last first. -/
  | tables (ts : List Item)

namespace Item

def emptyTable (implicit dotted : Bool) : Item := .table implicit dotted []

/-- A table as a value. -/
def close : Item → Item
  | .table _ _ es => .closed es
  | i => i

def find? (key : Text) (es : List (Text × Item)) : Option Item :=
  (es.find? (·.1 = key)).map Prod.snd

def put (key : Text) (i : Item) : List (Text × Item) → List (Text × Item)
  | [] => [(key, i)]
  | e :: es => if e.1 = key then (key, i) :: es else e :: put key i es

/-- Change the table at a path, making the tables on the way. A value is in the way of any path; a
table with its own header is in the way of a dotted key. -/
def descend (dotted : Bool) (f : Item → Option Item) : List Text → Item → Option Item
  | [], i => f i
  | key :: path, .table implicit isDotted es => do
    let child ←
      match (find? key es).getD (emptyTable true dotted) with
      | .tables (last :: ts) => do
        let last ← descend dotted f path last
        some (.tables (last :: ts))
      | .table i d inner =>
        if dotted && !i then none else descend dotted f path (.table i d inner)
      | _ => none
    some (.table implicit isDotted (put key child es))
  | _ :: _, _ => none

/-- Enter a value under a dotted key. -/
def enter (path : List Text) (key : Text) (v : Item) (i : Item) : Option Item :=
  i.descend true (fun
    | .table implicit dotted es =>
      if dotted == path.isEmpty || (find? key es).isSome then none
      else some (.table implicit dotted (put key v es))
    | _ => none) path

/-- Open the table of a header. -/
def openTable (key : Text) : Item → Option Item
  | .table implicit dotted es =>
    match find? key es with
    | none => some (.table implicit dotted (put key (emptyTable false false) es))
    | some (.table true false inner) =>
      some (.table implicit dotted (put key (.table false false inner) es))
    | _ => none
  | _ => none

/-- Add a table under a header in double brackets. -/
def addTable (key : Text) : Item → Option Item
  | .table implicit dotted es =>
    match find? key es with
    | none => some (.table implicit dotted (put key (.tables [emptyTable false false]) es))
    | some (.tables ts) =>
      some (.table implicit dotted (put key (.tables (emptyTable false false :: ts)) es))
    | _ => none
  | _ => none

/-- The key that says, as the first of a table, that the table is a date or time in a text. -/
def momentKey : Text := "$__toml_private_datetime".toList

/-- The date or time that a table with these entries stands for; no value if the text under the key
is none. -/
def moment? (es : List (Text × Item)) : Option (Option Text) :=
  match es with
  | (key, v) :: _ =>
    if key = momentKey then
      match v with
      | .scalar (.text t) => some (Moment.ofText? t)
      | _ => some none
    else none
  | [] => none

/-- A table whose entries have the values given, unless it stands for a date or time. -/
def tableValue? (origin : Option Text) (es : List (Text × Item))
    (entries? : Option (List (Text × Value))) : Option Value :=
  match moment? es with
  | some t? => t?.map fun t => .scalar origin (.text t)
  | none => entries?.map (.table origin)

mutual

/-- The tree of settings that a finished item is. -/
def toValue? (origin : Option Text) : Item → Option Value
  | .scalar s => some (.scalar origin s)
  | .moment t => some (.scalar origin (.text t))
  | .list is => (values? origin is).map (.list origin)
  | .closed es => tableValue? origin es (entries? origin es)
  | .table _ _ es => tableValue? origin es (entries? origin es)
  | .tables ts => (values? origin ts).map fun vs => .list origin vs.reverse

def values? (origin : Option Text) : List Item → Option (List Value)
  | [] => some []
  | i :: is =>
    match toValue? origin i, values? origin is with
    | some v, some vs => some (v :: vs)
    | _, _ => none

def entries? (origin : Option Text) : List (Text × Item) → Option (List (Text × Value))
  | [] => some []
  | (key, i) :: es =>
    match toValue? origin i, entries? origin es with
    | some v, some vs => some ((key, v) :: vs)
    | _, _ => none

end

end Item
end RadioText.Config.Toml
