import RadioText.Text.Decimal

/-! Dates and times as TOML writes them: a date, a time of day, or both, and then perhaps an offset
from universal time. A reader gives back the one form they are kept in: a `T` between date and time,
no zeros at the end of a fraction, `Z` or an offset with a sign. -/
namespace RadioText.Config.Toml.Moment

/-- Exactly `n` decimal digits. -/
def fixedDigits (n : Nat) (t : Text) : Option (Nat × Text) :=
  let ds := t.take n
  if ds.length = n ∧ ds.all Decimal.isDigit then some (Decimal.value ds, t.drop n) else none

/-- Exactly `n` decimal digits for a number in a range. -/
def fixed (n low high : Nat) (t : Text) : Option (Nat × Text) :=
  (fixedDigits n t).filter fun (v, _) => low ≤ v && v ≤ high

def daysIn (year month : Nat) : Nat :=
  if month = 2 then
    if year % 4 = 0 ∧ (year % 100 ≠ 0 ∨ year % 400 = 0) then 29 else 28
  else if month = 4 ∨ month = 6 ∨ month = 9 ∨ month = 11 then 30
  else 31

/-- At least `n` digits, with zeros in front. -/
def padded (n v : Nat) : Text :=
  let ds := Decimal.write v
  List.replicate (n - ds.length) '0' ++ ds

/-- A reader's answer where a broken value is told from one of another kind. -/
inductive Attempt (α : Type)
  | other
  | broken
  | read (a : α) (rest : Text)

/-- From the point on that decides the kind, no reading means a broken value. -/
def Attempt.committed : Option (α × Text) → Attempt α
  | some (a, rest) => .read a rest
  | none => .broken

def date (t : Text) : Attempt Text :=
  match fixedDigits 4 t with
  | some (year, '-' :: rest) =>
    .committed do
      let (month, rest) ← fixed 2 1 12 rest
      let rest ← Text.after? ['-'] rest
      let (day, rest) ← fixed 2 1 (daysIn year month) rest
      some (padded 4 year ++ '-' :: padded 2 month ++ '-' :: padded 2 day, rest)
  | _ => .other

/-- Digits after the point of a second; nine of them count. -/
def secondFraction (t : Text) : Option (Text × Text) :=
  match t with
  | '.' :: rest =>
    let ds := rest.takeWhile Decimal.isDigit
    if ds.isEmpty then none
    else
      let kept := Text.dropEnd (· == '0') (ds.take 9)
      some (if kept.isEmpty then [] else '.' :: kept, rest.drop ds.length)
  | _ => some ([], t)

/-- A time of day with hours up to `lastHour`; a minute may have a leap second. -/
def time (lastHour : Nat) (t : Text) : Attempt Text :=
  match fixed 2 0 lastHour t with
  | some (hour, ':' :: rest) =>
    .committed do
      let (minute, rest) ← fixed 2 0 59 rest
      let rest ← Text.after? [':'] rest
      let (second, rest) ← fixed 2 0 60 rest
      let (fraction, rest) ← secondFraction rest
      some (padded 2 hour ++ ':' :: padded 2 minute ++ ':' :: padded 2 second ++ fraction, rest)
  | _ => .other

/-- What stands between a date and a time. -/
def isJoint (c : Char) : Bool := c == 'T' || c == 't' || c == ' '

def isUniversal (c : Char) : Bool := c == 'Z' || c == 'z'

/-- An offset without its sign: hours and minutes, up to a largest number of each. -/
def offsetMinutes (lastHour lastMinute : Nat) (t : Text) : Option (Nat × Text) := do
  let (hour, rest) ← fixed 2 0 lastHour t
  let rest ← Text.after? [':'] rest
  let (minute, rest) ← fixed 2 0 lastMinute rest
  some (60 * hour + minute, rest)

/-- An offset in minutes, behind its sign; no offset has a plus. -/
def writeOffset (sign : Char) (minutes : Nat) : Text :=
  (if minutes = 0 then '+' else sign) :: padded 2 (minutes / 60)
    ++ ':' :: padded 2 (minutes % 60)

def offset (t : Text) : Attempt Text :=
  match t with
  | c :: rest =>
    if isUniversal c then .read ['Z'] rest
    else if c = '+' ∨ c = '-' then
      .committed ((offsetMinutes 23 59 rest).map fun (n, rest) => (writeOffset c n, rest))
    else .other
  | [] => .other

/-- The date, the time or both that a text starts with. A character between date and time that no
time follows is no part of them. -/
def read (t : Text) : Attempt Text :=
  match date t with
  | .broken => .broken
  | .other => time 23 t
  | .read day rest =>
    match rest with
    | c :: more =>
      if isJoint c then
        match time 23 more with
        | .broken => .broken
        | .other => .read day rest
        | .read clock rest =>
          match offset rest with
          | .broken => .broken
          | .other => .read (day ++ 'T' :: clock) rest
          | .read zone rest => .read (day ++ 'T' :: clock ++ zone) rest
      else .read day rest
    | [] => .read day rest

/-- The end of a text with a date and a time: an offset of at most a day, or nothing. -/
def offsetToEnd? : Text → Option Text
  | [] => some []
  | c :: rest =>
    if isUniversal c then if rest.isEmpty then some ['Z'] else none
    else if c = '+' ∨ c = '-' then
      match offsetMinutes 99 99 rest with
      | some (n, []) => if n ≤ 24 * 60 then some (writeOffset c n) else none
      | _ => none
    else none

/-- The date, the time or both that a whole text is. Here a day has an hour 24 as well, and an
offset any number of minutes. -/
def ofText? (t : Text) : Option Text :=
  match date t with
  | .broken => none
  | .other =>
    match time 24 t with
    | .read clock [] => some clock
    | _ => none
  | .read day [] => some day
  | .read day (c :: more) =>
    if isJoint c then
      match time 24 more with
      | .read clock rest => (offsetToEnd? rest).map (day ++ 'T' :: clock ++ ·)
      | _ => none
    else none

end RadioText.Config.Toml.Moment
