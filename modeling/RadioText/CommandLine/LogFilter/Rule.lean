import RadioText.Log
import RadioText.Text.Pattern

/-! One rule about what gets into the log: a level, for all parts of the program; the start of a
part's name, with or without an equals sign and a level; or either with the name of a value in
brackets and braces, for lines that have such a value. -/
namespace RadioText.LogFilter

/-- Lines at most as chatty as `level` are shown; none if there is no level. -/
structure Limit where
  level : Option Level
deriving DecidableEq

def Limit.all : Limit := ⟨some .trace⟩

def Limit.admits (l : Limit) (level : Level) : Bool :=
  match l.level with
  | some most => level.rank ≤ most.rank
  | none => false

/-- A letter of the basic alphabet in lower case, any other character as it is. -/
def fold (t : Text) : Text := t.map Char.toLower

/-- A level by its name in any case, or by its number; `off` and `0` are none. -/
def Limit.read? (t : Text) : Option Limit :=
  match Decimal.read? (Level.all.length + 1) t with
  | some 0 => some ⟨none⟩
  | some n => some ⟨Level.all.find? (·.rank = n)⟩
  | none =>
    if fold t = "off".toList then some ⟨none⟩
    else (Level.all.find? fun l => fold l.name.toList = fold t).map fun l => ⟨some l⟩

/-- A rule: which lines it is for, and what it shows of them. -/
inductive Rule
  /-- For the parts whose names begin with `start`, and for lines with the value if one is named. -/
  | lines (start : Text) (value : Option Text) (limit : Limit)
  /-- For lines inside a named activity, or one with a certain value; there are none. -/
  | activity

inductive Fault
  | malformed
  /-- A piece of the rule would begin or end inside a character. -/
  | torn
deriving DecidableEq

/-! ### Reading

A rule is read without the blanks at its ends, but its pieces are taken from the whole text, at the
distances from its start that they have in the text without blanks. Distances count bytes. -/

/-- The piece of a text from one distance to another. -/
def piece (t : Text) (first past : Nat) : Except Fault Text :=
  match (t.dropBytes? first).bind (·.takeBytes? (past - first)) with
  | some part => .ok part
  | none => .error .torn

/-- The limit that begins at a distance and goes on to the end of the text. -/
def limitFrom (t : Text) (first : Nat) : Except Fault Limit := do
  let level ← piece t first t.byteCount
  if level.isEmpty then return .all
  match Limit.read? level with
  | some limit => return limit
  | none => throw .malformed

/-- The limit after a bracket has been closed; `rest` begins at the distance `first`. -/
def limitAfter (t : Text) (first : Nat) (rest : Text) : Except Fault Limit :=
  match rest with
  | [] => .ok .all
  | '=' :: _ => limitFrom t (first + 1)
  | _ => .error .malformed

/-- A number behind a plus sign, with a point and an exponent perhaps. -/
def isPlusNumber (t : Text) : Bool :=
  match t with
  | '+' :: t =>
    let whole := t.takeWhile Decimal.isDigit
    let t' := t.drop whole.length
    let (fraction, rest) := match t' with
      | '.' :: rest => (rest.takeWhile Decimal.isDigit, rest.dropWhile Decimal.isDigit)
      | rest => ([], rest)
    let exponent := match rest with
      | [] => true
      | e :: rest =>
        let digits := match rest with
          | '+' :: digits => digits
          | '-' :: digits => digits
          | digits => digits
        (e == 'e' || e == 'E') && (Decimal.readDigits? digits).isSome
    (!(whole ++ fraction).isEmpty && exponent)
      || ["inf", "infinity", "nan"].contains (String.ofList (fold t))
  | _ => false

/-- The name in a rule about a value; no name if the rule asks for a certain value, which is a
number or a pattern. -/
def readValue (t : Text) : Except Fault (Option Text) :=
  let name := t.takeWhile (· ≠ '=')
  match t.drop name.length with
  | [] => if name.isEmpty then .error .malformed else .ok (some name)
  | _ :: value =>
    let value := value.takeWhile (· ≠ '=')
    if isPlusNumber value || Pattern.valid value then .ok none else .error .malformed

/-- A rule for the parts with `start` from what is in brackets; `rest` begins after the opening one,
at the distance `first`. -/
def readBrackets (t start : Text) (first : Nat) (rest : Text) : Except Fault Rule := do
  let name := rest.takeWhile fun c => c ≠ ']' ∧ c ≠ '{'
  let past := first + Text.byteCount name
  match rest.drop name.length with
  | ']' :: rest =>
    let _ ← piece t first past
    let _ ← limitAfter t (past + 1) rest
    return .activity
  | '{' :: rest =>
    let activity ← piece t first past
    let first := past + 1
    let value := rest.takeWhile (· ≠ '\x7d')
    let past := first + Text.byteCount value
    match rest.drop value.length with
    | _ :: rest =>
      let value ← readValue (← piece t first past)
      match rest with
      | ']' :: rest =>
        let limit ← limitAfter t (past + 2) rest
        match activity, value with
        | [], some value => return .lines start (some value) limit
        | _, _ => return .activity
      | _ => throw .malformed
    | [] => throw .malformed
  | _ => throw .malformed

def isStart (c : Char) : Bool := c == '-' || c == ':' || c == '_' || Alphanumeric.contains c

def readRule (t : Text) : Except Fault Rule := do
  match t.trim with
  | [] => throw .malformed
  | '[' :: rest => readBrackets t [] 1 rest
  | c :: rest =>
    if !isStart c then throw .malformed
    let name := (c :: rest).takeWhile fun c => c ≠ '=' ∧ c ≠ '['
    let past := Text.byteCount name
    match (c :: rest).drop name.length with
    | '=' :: _ => return .lines (← piece t 0 past) none (← limitFrom t (past + 1))
    | '[' :: rest => readBrackets t (← piece t 0 past) (past + 1) rest
    | _ =>
      match Limit.read? t with
      | some limit => return .lines [] none limit
      | none => return .lines t none .all

end RadioText.LogFilter
