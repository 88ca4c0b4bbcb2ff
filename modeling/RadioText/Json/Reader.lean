import RadioText.Text.Hexadecimal
import RadioText.Text.Shortest

/-! Reading a JSON record of texts and whole numbers. The text is read once from left to right, and
the first fault in that order is the one reported. Members of unknown name are skipped after a
check of their form; members that are not there keep what the record had. A list stands for a
record with its members in their order, of which the last ones may be missing. -/
namespace RadioText.Json

inductive Fault
  /-- The text ends inside a value. -/
  | ended
  | malformed
  /-- A value of the wrong type or size, or a member given twice. -/
  | unfit

def isSpace (c : Char) : Bool := c == ' ' || c == '\t' || c == '\n' || c == '\r'

def skipSpace (t : Text) : Text := t.dropWhile isSpace

/-- The rest after exactly the characters of `word`. -/
def exactly (word t : Text) : Except Fault Text :=
  match word with
  | [] => .ok t
  | c :: word =>
    match t with
    | [] => .error .ended
    | d :: t => if c = d then exactly word t else .error .malformed

/-- The number of the four hexadecimal digits in front; fewer than four bytes are an early end. -/
def codeUnit (t : Text) : Except Fault Nat :=
  if Text.byteCount (t.take 4) < 4 then .error .ended
  else
    match Hexadecimal.number? 4 t with
    | some n => .ok n
    | none => .error .malformed

def isLead (n : Nat) : Bool := 0xD800 ≤ n && n ≤ 0xDBFF
def isTrail (n : Nat) : Bool := 0xDC00 ≤ n && n ≤ 0xDFFF

/-- What a short escape stands for. -/
def shortEscape? : Char → Option Char
  | '"' => some '"'
  | '\\' => some '\\'
  | '/' => some '/'
  | 'b' => some '\x08'
  | 'f' => some '\x0c'
  | 'n' => some '\n'
  | 'r' => some '\r'
  | 't' => some '\t'
  | _ => none

/-- The character of a numbered escape whose digits `t` starts with, and how many characters it
takes. A pair of surrogates is one character, and none stands alone. -/
def numbered (t : Text) : Except Fault (Char × Nat) := do
  let n ← codeUnit t
  if isTrail n then throw .malformed
  else if isLead n then
    let rest ← exactly ['\\', 'u'] (t.drop 4)
    let m ← codeUnit rest
    if isTrail m then return (Char.ofNat (0x10000 + (n - 0xD800) * 0x400 + (m - 0xDC00)), 10)
    else throw .malformed
  else return (Char.ofNat n, 4)

/-- A string after its opening quote, and the rest after its closing one. With `check` off a
numbered escape may be any four digits. -/
def string (check : Bool) (done : Text) (t : Text) : Except Fault (Text × Text) :=
  match t with
  | [] => .error .ended
  | '"' :: rest => .ok (done.reverse, rest)
  | ['\\'] => .error .ended
  | '\\' :: 'u' :: rest =>
    if check then
      match numbered rest with
      | .ok (c, used) => string check (c :: done) (rest.drop used)
      | .error e => .error e
    else
      match codeUnit rest with
      | .ok _ => string check done (rest.drop 4)
      | .error e => .error e
  | '\\' :: c :: rest =>
    match shortEscape? c with
    | some d => string check (d :: done) rest
    | none => .error .malformed
  | c :: rest => if c.toNat < 0x20 then .error .malformed else string check (c :: done) rest
termination_by t.length
decreasing_by all_goals simp; try omega

/-- A number as written: sign, digits before and after the point, exponent. -/
structure Numeral where
  negative : Bool
  whole : Text
  fraction : Option Text
  exponent : Option Int

/-- At least one digit. -/
def digits (t : Text) : Except Fault (Text × Text) :=
  match t with
  | [] => .error .ended
  | c :: _ =>
    if Decimal.isDigit c then .ok (t.takeWhile Decimal.isDigit, t.dropWhile Decimal.isDigit)
    else .error .malformed

/-- Digits without superfluous zeros in front. -/
def wholeDigits (t : Text) : Except Fault (Text × Text) := do
  let (ds, rest) ← digits t
  match ds with
  | '0' :: _ :: _ => throw .malformed
  | _ => return (ds, rest)

def fractionDigits (t : Text) : Except Fault (Option Text × Text) :=
  match t with
  | '.' :: rest => (digits rest).map fun (ds, rest) => (some ds, rest)
  | _ => .ok (none, t)

def exponentDigits (t : Text) : Except Fault (Option Int × Text) :=
  match t with
  | c :: rest =>
    if c = 'e' ∨ c = 'E' then
      match rest with
      | '+' :: rest => (digits rest).map fun (ds, rest) => (some (.ofNat (Decimal.value ds)), rest)
      | '-' :: rest =>
        (digits rest).map fun (ds, rest) => (some (-.ofNat (Decimal.value ds)), rest)
      | _ => (digits rest).map fun (ds, rest) => (some (.ofNat (Decimal.value ds)), rest)
    else .ok (none, t)
  | [] => .ok (none, t)

def numeral (t : Text) : Except Fault (Numeral × Text) := do
  let (negative, t) := match t with
    | '-' :: rest => (true, rest)
    | _ => (false, t)
  let (whole, t) ← wholeDigits t
  let (fraction, t) ← fractionDigits t
  let (exponent, t) ← exponentDigits t
  return (⟨negative, whole, fraction, exponent⟩, t)

/-- The number that digits make when written after those of `n`, as far as it fits 64 bits, and how
many of the digits that takes. -/
def fitting (n : Nat) : Text → Nat × Nat
  | [] => (n, 0)
  | c :: rest =>
    let m := 10 * n + Decimal.digitValue c
    if m < 1 <<< 64 then
      let (m, count) := fitting m rest
      (m, count + 1)
    else (n, 0)

/-- The digits of a numeral that count, as one whole number, and the power of ten that it is to be
multiplied by. -/
def Numeral.parts (n : Numeral) : Nat × Int :=
  let (whole, count) := fitting 0 n.whole
  let left : Int := n.whole.length - count
  let (m, places) := fitting whole (n.fraction.getD [])
  (m, left - places + n.exponent.getD 0)

/-- Too large for a binary floating point number of 64 bits. Digits and power of ten are made such
numbers first, and then their product. -/
def Numeral.overflows (n : Numeral) : Bool :=
  let (m, k) := n.parts
  if m = 0 ∨ k < 0 then false
  else if k > 308 then true
  else Shortest.tooLarge ≤ Shortest.nearest m * Shortest.nearest (Nat.pow 10 k.toNat)

/-- The value of a numeral that is a whole number not below zero and below `bound`. -/
def Numeral.below (bound : Nat) (n : Numeral) : Except Fault Nat :=
  match n.negative, n.fraction, n.exponent with
  | false, none, none =>
    let v := Decimal.value n.whole
    if v < bound then .ok v else if n.overflows then .error .malformed else .error .unfit
  | _, _, _ => if n.overflows then .error .malformed else .error .unfit

/-- The fault of a value that is not of the type asked for: its own fault if it has one. -/
def misfit (t : Text) : Fault :=
  let verdict : Except Fault Unit :=
    match t with
    | [] => .error .ended
    | 'n' :: rest => (exactly "ull".toList rest).map fun _ => ()
    | 't' :: rest => (exactly "rue".toList rest).map fun _ => ()
    | 'f' :: rest => (exactly "alse".toList rest).map fun _ => ()
    | '"' :: rest => (string true [] rest).map fun _ => ()
    | '[' :: _ => .ok ()
    | '\x7b' :: _ => .ok ()
    | c :: _ =>
      if c = '-' ∨ Decimal.isDigit c then
        match numeral t with
        | .ok (n, _) => if n.overflows then .error .malformed else .ok ()
        | .error e => .error e
      else .error .malformed
  match verdict with
  | .ok () => .unfit
  | .error e => e

def textValue (t : Text) : Except Fault (Text × Text) :=
  match skipSpace t with
  | '"' :: rest => string true [] rest
  | t => .error (misfit t)

def naturalValue (bound : Nat) (t : Text) : Except Fault (Nat × Text) :=
  match skipSpace t with
  | [] => .error .ended
  | c :: rest =>
    if c = '-' ∨ Decimal.isDigit c then do
      let (n, rest) ← numeral (c :: rest)
      return (← n.below bound, rest)
    else .error (misfit (c :: rest))

/-- A container being skipped. -/
inductive Frame | list | record
deriving DecidableEq

def Frame.closer : Frame → Char
  | list => ']'
  | record => '\x7d'

/-- The rest after the colon of a member. -/
def colon (t : Text) : Except Fault Text :=
  match skipSpace t with
  | ':' :: rest => .ok rest
  | [] => .error .ended
  | _ => .error .malformed

/-- The rest after a value that is no container; a number that ends early is malformed. -/
def skipScalar (t : Text) : Except Fault Text :=
  match t with
  | [] => .error .ended
  | 'n' :: rest => exactly "ull".toList rest
  | 't' :: rest => exactly "rue".toList rest
  | 'f' :: rest => exactly "alse".toList rest
  | '"' :: rest => (string false [] rest).map Prod.snd
  | c :: _ =>
    if c = '-' ∨ Decimal.isDigit c then
      match numeral t with
      | .ok (_, rest) => .ok rest
      | .error _ => .error .malformed
    else .error .malformed

/-- What to expect next when skipping: a value, the first item of the innermost container, or
what follows an item. -/
inductive Expect | value | first | after

/-- Skip with the containers in `frames` open, the innermost first. -/
def skip (fuel : Nat) (expect : Expect) (frames : List Frame) (t : Text) : Except Fault Text :=
  match fuel with
  | 0 => .error .ended
  | fuel + 1 =>
    let t := skipSpace t
    match expect, frames with
    | .value, _ =>
      match t with
      | '[' :: rest => skip fuel .first (.list :: frames) rest
      | '\x7b' :: rest => skip fuel .first (.record :: frames) rest
      | _ => do skip fuel .after frames (← skipScalar t)
    | _, [] => .ok t
    | expect, frame :: outer =>
      match t with
      | [] => .error .ended
      | c :: rest =>
        let item (t : Text) : Except Fault Text :=
          match frame, t with
          | .list, _ => skip fuel .value frames t
          | .record, [] => .error .ended
          | .record, '"' :: rest => do
            let (_, rest) ← string false [] rest
            skip fuel .value frames (← colon rest)
          | .record, _ => .error .malformed
        if c = frame.closer then skip fuel .after outer rest
        else match expect with
          | .first => item t
          | _ => if c = ',' then item (skipSpace rest) else .error .malformed

/-- The rest after any value. -/
def skipValue (t : Text) : Except Fault Text := skip (2 * t.length + 2) .value [] t

/-- A member of a record: its name, and how its value is read into the record. -/
structure Slot (α : Type) where
  name : Text
  read : Text → Except Fault ((α → α) × Text)

def Slot.text (name : String) (store : Text → α → α) : Slot α :=
  ⟨name.toList, fun t => (textValue t).map fun (v, rest) => (store v, rest)⟩

def Slot.natural (bound : Nat) (name : String) (store : Nat → α → α) : Slot α :=
  ⟨name.toList, fun t => (naturalValue bound t).map fun (n, rest) => (store n, rest)⟩

/-- The members of a record after its opening brace; `seen` has the names already given. -/
def members (slots : List (Slot α)) (fuel : Nat) (seen : List Text) (record : α) (t : Text) :
    Except Fault (α × Text) :=
  match fuel with
  | 0 => .error .ended
  | fuel + 1 =>
    let member (seen : List Text) (t : Text) : Except Fault (α × Text) := do
      let (name, t) ← string true [] t
      match slots.find? (·.name = name) with
      | none =>
        let t ← skipValue (← colon t)
        members slots fuel (name :: seen) record t
      | some slot =>
        if seen.contains name then throw .unfit
        let (store, t) ← slot.read (← colon t)
        members slots fuel (name :: seen) (store record) t
    match skipSpace t with
    | [] => .error .ended
    | '\x7d' :: rest => .ok (record, rest)
    | '"' :: rest => if seen.isEmpty then member seen rest else .error .malformed
    | ',' :: rest =>
      if seen.isEmpty then .error .malformed
      else match skipSpace rest with
        | [] => .error .ended
        | '"' :: rest => member seen rest
        | _ => .error .malformed
    | _ => .error .malformed

/-- The items of a list after its opening bracket, each for one slot; `first` before any item. -/
def items (slots : List (Slot α)) (first : Bool) (record : α) (t : Text) :
    Except Fault (α × Text) :=
  match skipSpace t with
  | [] => .error .ended
  | ']' :: rest => .ok (record, rest)
  | c :: rest =>
    match slots with
    | [] => .error .malformed
    | slot :: slots =>
      if first then do
        let (store, t) ← slot.read (c :: rest)
        items slots false (store record) t
      else if c = ',' then
        match skipSpace rest with
        | [] => .error .ended
        | ']' :: _ => .error .malformed
        | t => do
          let (store, t) ← slot.read t
          items slots false (store record) t
      else .error .malformed

/-- Read a whole text as a record, over the members that `record` has already. -/
def readRecord (slots : List (Slot α)) (record : α) (t : Text) : Except Fault α := do
  let (record, rest) ←
    match skipSpace t with
    | '\x7b' :: rest => members slots (rest.length + 1) [] record rest
    | '[' :: rest => items slots true record rest
    | t => .error (misfit t)
  if (skipSpace rest).isEmpty then return record else throw .malformed

end RadioText.Json
