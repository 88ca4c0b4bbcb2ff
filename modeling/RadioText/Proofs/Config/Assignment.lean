import RadioText.Config.Loader

/-! Values stored in a tree of settings one after another. A setting holds the last value that was
stored for it, whatever else was stored around it. -/
namespace RadioText

namespace LowerCase

def plain : List Char := "abcdefghijklmnopqrstuvwxyz_".toList

end LowerCase

namespace Config

structure Setting where
  table : Text
  key : Text
deriving DecidableEq

namespace Setting

def ofNames (part key : String) : Setting := ⟨part.toList, key.toList⟩

def all : List Setting := defaults.map fun (part, key, _) => ofNames part key

def path (s : Setting) : Path := [.key s.table, .key s.key]

def dotted (s : Setting) : Text := s.table ++ '.' :: s.key

theorem read_dotted : ∀ s ∈ all, Path.read s.dotted = some s.path := by
  decide +kernel

end Setting

namespace Value

def raw (v : Value) (s : Setting) : Option Value :=
  (lookup s.table v.entries).bind fun t => lookup s.key t.entries

def IsScalar : Value → Prop
  | scalar _ _ => True
  | _ => False

instance : (v : Value) → Decidable v.IsScalar
  | scalar _ _ => .isTrue trivial
  | table _ _ => .isFalse id
  | list _ _ => .isFalse id

def said (k : Text) (es : List (Text × Value)) : List Value :=
  (es.filter (·.1.lower = k)).map Prod.snd

end Value

abbrev Assignment := Path × Value

namespace Assignment

def store (v : Value) (a : Assignment) : Value := Path.set a.2 a.1 v

/-- What storing a value gives to a setting: the value itself at the path of the setting, and at the
path of its table what the value says under its name. -/
def told (s : Setting) : Assignment → List Value
  | ([.key p], x) => if p.lower = s.table then Value.said s.key x.entries else []
  | ([.key p, .key q], x) => if p.lower = s.table ∧ q.lower = s.key then [x] else []
  | _ => []

/-- Storing the value gives nothing but scalars to settings, and leaves their tables tables. -/
def Orderly : Assignment → Prop
  | ([.key p], .table _ es) =>
    ∀ e ∈ es, Setting.mk p.lower e.1.lower ∈ Setting.all → e.2.IsScalar
  | ([.key p, .key q], x) => Setting.mk p.lower q.lower ∈ Setting.all → x.IsScalar
  | (.key p :: .key q :: _, _) => Setting.mk p.lower q.lower ∉ Setting.all
  | (.key p :: _, _) => p.lower ∉ Setting.all.map (·.table)
  | _ => False

instance : DecidablePred Orderly
  | ([.key p], .table _ es) => inferInstanceAs
    (Decidable (∀ e ∈ es, Setting.mk p.lower e.1.lower ∈ Setting.all → e.2.IsScalar))
  | ([.key p, .key q], x) => inferInstanceAs
    (Decidable (Setting.mk p.lower q.lower ∈ Setting.all → x.IsScalar))
  | (.key p :: .key q :: _ :: _, _) => inferInstanceAs
    (Decidable (Setting.mk p.lower q.lower ∉ Setting.all))
  | ([.key p], .scalar _ _) | ([.key p], .list _ _) | (.key p :: .index _ :: _, _) =>
    inferInstanceAs (Decidable (p.lower ∉ Setting.all.map (·.table)))
  | ([], _) | (.index _ :: _, _) => .isFalse id

theorem orderly_path (s : Setting) {x : Value} (hx : x.IsScalar) :
    Orderly (s.path, x) := fun _ => hx

end Assignment
end Config
end RadioText
