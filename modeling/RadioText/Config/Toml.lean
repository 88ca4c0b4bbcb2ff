import RadioText.Config.Toml.Item
import RadioText.Text.Hexadecimal
import RadioText.Text.Shortest

/-! Reading TOML 1.0 as a tree of settings. A document that breaks any rule of the format has no
reading: a value that is out of range, a key defined twice, a table opened twice, or lists and
inline tables nested eighty deep. -/
namespace RadioText.Config.Toml

/-- A reader takes a value off the front of a text. -/
abbrev Reader (α : Type) := Text → Option (α × Text)

def isGap (c : Char) : Bool := c == ' ' || c == '\t'

def skipGap (t : Text) : Text := t.dropWhile isGap

/-- Characters allowed in comments and, but for their quotes, in strings. -/
def isPlain (c : Char) : Bool := c == '\t' || (0x20 ≤ c.toNat && c.toNat != 0x7F)

def newline? : Text → Option Text
  | '\n' :: rest => some rest
  | '\r' :: '\n' :: rest => some rest
  | _ => none

/-- The rest after a comment, if there is one. -/
def skipComment : Text → Text
  | '#' :: rest => rest.dropWhile isPlain
  | t => t

/-- The rest after the end of a line, which a comment may precede. -/
def lineEnd (t : Text) : Option Text :=
  let t := skipComment (skipGap t)
  if t.isEmpty then some [] else newline? t

/-- The rest after any blanks, line ends and comments; a comment needs its line end. -/
def skipBlank (fuel : Nat) (t : Text) : Option Text :=
  match fuel with
  | 0 => none
  | fuel + 1 =>
    match skipGap t with
    | '#' :: rest => do skipBlank fuel (← newline? (rest.dropWhile isPlain))
    | t =>
      match newline? t with
      | some rest => skipBlank fuel rest
      | none => some t

/-! ### Strings -/

def shortEscape? : Char → Option Char
  | 'b' => some '\x08'
  | 't' => some '\t'
  | 'n' => some '\n'
  | 'f' => some '\x0c'
  | 'r' => some '\r'
  | '"' => some '"'
  | '\\' => some '\\'
  | _ => none

/-- The character of an escape after its backslash, and how long the escape is. -/
def escape? : Text → Option (Char × Nat)
  | 'u' :: rest => (Hexadecimal.char? 4 rest).map (·, 5)
  | 'U' :: rest => (Hexadecimal.char? 8 rest).map (·, 9)
  | c :: _ => (shortEscape? c).map (·, 1)
  | [] => none

/-- A string on one line after its opening quote. -/
def basicString (done : Text) (t : Text) : Option (Text × Text) :=
  match t with
  | [] => none
  | '"' :: rest => some (done.reverse, rest)
  | '\\' :: rest =>
    match escape? rest with
    | some (c, n) => basicString (c :: done) (rest.drop n)
    | none => none
  | c :: rest => if isPlain c then basicString (c :: done) rest else none
termination_by t.length
decreasing_by all_goals simp; try omega

def literalString (t : Text) : Option (Text × Text) :=
  let body := t.takeWhile fun c => isPlain c && c != '\''
  match t.drop body.length with
  | '\'' :: rest => some (body, rest)
  | _ => none

/-- How many of `quote` stand in front, at most five. -/
def quotes (quote : Char) (t : Text) : Nat := ((t.take 5).takeWhile (· == quote)).length

/-- The rest after any blanks and line ends. -/
def skipBreaks : Text → Text
  | ' ' :: rest => skipBreaks rest
  | '\t' :: rest => skipBreaks rest
  | '\n' :: rest => skipBreaks rest
  | '\r' :: '\n' :: rest => skipBreaks rest
  | t => t

/-- A line break that a backslash hides, with all blanks after it; given what follows the
backslash. -/
def hiddenBreak? (t : Text) : Option Text := (newline? (skipGap t)).map skipBreaks

/-- A string of many lines, after its opening quotes and the line break that may follow them. Up to
two quotes may stand before the closing three. -/
def longString (quote : Char) (escapes : Bool) (fuel : Nat) (done : Text) (t : Text) :
    Option (Text × Text) :=
  match fuel with
  | 0 => none
  | fuel + 1 =>
    let n := quotes quote t
    if 3 ≤ n then some ((List.replicate (n - 3) quote ++ done).reverse, t.drop n)
    else
      match t with
      | [] => none
      | '\r' :: '\n' :: rest => longString quote escapes fuel ('\n' :: done) rest
      | '\n' :: rest => longString quote escapes fuel ('\n' :: done) rest
      | c :: rest =>
        if escapes ∧ c = '\\' then
          match hiddenBreak? rest with
          | some rest => longString quote escapes fuel done rest
          | none =>
            match escape? rest with
            | some (d, n) => longString quote escapes fuel (d :: done) (rest.drop n)
            | none => none
        else if isPlain c then longString quote escapes fuel (c :: done) rest
        else none

def longBody (quote : Char) (escapes : Bool) (t : Text) : Option (Text × Text) :=
  longString quote escapes (t.length + 1) [] ((newline? t).getD t)

/-- A string of any of the four kinds. -/
def string : Reader Text
  | '"' :: '"' :: '"' :: rest => longBody '"' true rest
  | '"' :: rest => basicString [] rest
  | '\'' :: '\'' :: '\'' :: rest => longBody '\'' false rest
  | '\'' :: rest => literalString rest
  | _ => none

/-! ### Numbers -/

/-- Digits with single underscores between them. -/
def digitsFrom (p : Char → Bool) : Reader Text
  | c :: rest =>
    if p c then
      match rest with
      | '_' :: d :: more =>
        if p d then (digitsFrom p (d :: more)).map fun (ds, rest) => (c :: ds, rest)
        else some ([c], rest)
      | d :: more =>
        if p d then (digitsFrom p (d :: more)).map fun (ds, rest) => (c :: ds, rest)
        else some ([c], rest)
      | [] => some ([c], [])
    else none
  | [] => none

def sign : Text → Bool × Text
  | '-' :: rest => (true, rest)
  | '+' :: rest => (false, rest)
  | t => (false, t)

/-- The whole part of a decimal number: one zero, or digits that do not start with one. -/
def wholePart : Reader Text
  | '0' :: rest => some (['0'], rest)
  | t => digitsFrom Decimal.isDigit t

def radixValue (radix : Nat) (digits : Text) : Nat :=
  digits.foldl (fun v c => radix * v + (Hexadecimal.digit? c).getD 0) 0

def integerLimit : Nat := 1 <<< 63

def isHexDigit (c : Char) : Bool := (Hexadecimal.digit? c).isSome

def radixInteger (radix : Nat) (p : Char → Bool) (t : Text) : Option (Scalar × Text) := do
  let (digits, rest) ← digitsFrom p t
  let v := radixValue radix digits
  if v < integerLimit then some (.integer v, rest) else none

def integer : Reader Scalar
  | '0' :: 'x' :: rest => radixInteger 16 isHexDigit rest
  | '0' :: 'o' :: rest => radixInteger 8 (fun c => '0' ≤ c && c ≤ '7') rest
  | '0' :: 'b' :: rest => radixInteger 2 (fun c => c == '0' || c == '1') rest
  | t => do
    let (negative, t) := sign t
    let (digits, rest) ← wholePart t
    let v := Decimal.value digits
    if negative then if v ≤ integerLimit then some (.integer (-v), rest) else none
    else if v < integerLimit then some (.integer v, rest) else none

/-- What follows the whole part of a number with a point or an exponent: the digits after the point
and the exponent. `none` if neither is there, and no reading if one is broken. -/
def decimalTail (t : Text) : Option (Option (Text × Int) × Text) :=
  let exponent (t : Text) : Option (Option Int × Text) :=
    match t with
    | c :: rest =>
      if c = 'e' ∨ c = 'E' then do
        let (negative, rest) := sign rest
        let (digits, rest) ← digitsFrom Decimal.isDigit rest
        let v : Int := Decimal.value digits
        some (some (if negative then -v else v), rest)
      else some (none, t)
    | [] => some (none, t)
  match t with
  | '.' :: rest => do
    let (fraction, rest) ← digitsFrom Decimal.isDigit rest
    let (e, rest) ← exponent rest
    some (some (fraction, e.getD 0), rest)
  | _ => do
    let (e, rest) ← exponent t
    some (e.map fun e => ([], e), rest)

def specialNumber (t : Text) : Option (Scalar × Text) :=
  let (negative, t) := sign t
  let signed (x : Float) : Scalar := .number (if negative then -x else x)
  match t with
  | 'i' :: 'n' :: 'f' :: rest => some (signed (1 / 0), rest)
  | 'n' :: 'a' :: 'n' :: rest => some (signed (0 / 0), rest)
  | _ => none

/-- A decimal number. One too large for a number of 64 bits has no reading unless it is negative. -/
def number (t : Text) : Option (Scalar × Text) :=
  let (negative, body) := sign t
  match wholePart body with
  | none => specialNumber t
  | some (whole, rest) =>
    match decimalTail rest with
    | none => none
    | some (none, _) => integer t
    | some (some (fraction, e), rest) =>
      let x := Shortest.read negative (Decimal.value (whole ++ fraction)) (e - fraction.length)
      if x.isInf ∧ !negative then none else some (.number x, rest)

/-! ### Keys and values -/

def isBare (c : Char) : Bool := c.isAlphanum || c == '_' || c == '-'

def keyPart : Reader Text
  | '"' :: rest => basicString [] rest
  | '\'' :: rest => literalString rest
  | t =>
    let name := t.takeWhile isBare
    if name.isEmpty then none else some (name, t.drop name.length)

/-- Deepest nesting of lists and inline tables, and longest dotted key. -/
def depthLimit : Nat := 79

/-- The parts of a dotted key, last first. -/
def keyParts (fuel : Nat) (done : List Text) (t : Text) : Option (List Text × Text) :=
  match fuel with
  | 0 => none
  | fuel + 1 => do
    let (part, t) ← keyPart (skipGap t)
    match skipGap t with
    | '.' :: rest => keyParts fuel (part :: done) rest
    | rest => some (part :: done, rest)

/-- A dotted key: the parts before the last one, the last one. -/
def key : Reader (List Text × Text) := fun t => do
  match ← keyParts (t.length + 1) [] t with
  | (last :: before, rest) =>
    if before.length < depthLimit then some ((before.reverse, last), rest) else none
  | ([], _) => none

/-- A value that contains no other. -/
def scalar (t : Text) : Option (Item × Text) :=
  match t with
  | '"' :: _ => (string t).map fun (s, rest) => (.scalar (.text s), rest)
  | '\'' :: _ => (string t).map fun (s, rest) => (.scalar (.text s), rest)
  | 't' :: 'r' :: 'u' :: 'e' :: rest => some (.scalar (.boolean true), rest)
  | 'f' :: 'a' :: 'l' :: 's' :: 'e' :: rest => some (.scalar (.boolean false), rest)
  | _ =>
    match Moment.read t with
    | .broken => none
    | .read s rest => some (.moment s, rest)
    | .other => (number t).map fun (s, rest) => (.scalar s, rest)

/-- The items of a list, last first, after its opening bracket. The fuel is at least one more than
there are characters left. -/
def items (value : Reader Item) (fuel : Nat) (done : List Item) (t : Text) :
    Option (List Item × Text) :=
  match fuel with
  | 0 => none
  | fuel + 1 => do
    let t ← skipBlank (fuel + 1) t
    match t with
    | ']' :: rest => some (done, rest)
    | _ =>
      let (v, t) ← value t
      match ← skipBlank (fuel + 1) t with
      | ',' :: rest => items value fuel (v :: done) rest
      | ']' :: rest => some (v :: done, rest)
      | _ => none

/-- A key and its value. -/
def assignment (value : Reader Item) (t : Text) :
    Option ((List Text × Text × Item) × Text) := do
  let ((path, last), t) ← key t
  let t ← Text.after? ['='] (skipGap t)
  let (v, t) ← value (skipGap t)
  some ((path, last, v), t)

/-- The entries of an inline table after its opening brace, which is not closed at once. -/
def inlineEntries (value : Reader Item) (fuel : Nat) (table : Item) (t : Text) :
    Option (Item × Text) :=
  match fuel with
  | 0 => none
  | fuel + 1 => do
    let ((path, last, v), t) ← assignment value t
    let table ← Item.enter path last v table
    match skipGap t with
    | ',' :: rest => inlineEntries value fuel table rest
    | '\x7d' :: rest => some (table, rest)
    | _ => none

/-- A value in which lists and inline tables nest at most `depth` deep. -/
def value : Nat → Reader Item
  | 0, t => scalar t
  | depth + 1, t =>
    match t with
    | '[' :: rest =>
      (items (value depth) (rest.length + 1) [] rest).map fun (vs, rest) =>
        (.list vs.reverse, rest)
    | '\x7b' :: rest =>
      match skipGap rest with
      | '\x7d' :: rest => some (.closed [], rest)
      | rest =>
        (inlineEntries (value depth) (rest.length + 1) (.emptyTable false false) rest).map
          fun (table, rest) => (table.close, rest)
    | _ => scalar t

/-! ### Documents -/

/-- The tables read so far, and the header in force. -/
structure Document where
  root : Item
  header : List Text

/-- A header after its opening brackets. -/
def header (double : Bool) (doc : Document) (t : Text) : Option (Document × Text) := do
  let ((path, last), t) ← key t
  let t ← Text.after? [']'] (skipGap t)
  let t ← if double then Text.after? [']'] t else some t
  let rest ← lineEnd t
  let make := if double then Item.addTable last else Item.openTable last
  let root ← doc.root.descend false make path
  some (⟨root, path ++ [last]⟩, rest)

/-- A line with a key and its value; the value may go on over more lines. -/
def assignmentLine (doc : Document) (t : Text) : Option (Document × Text) := do
  let ((path, last, v), t) ← assignment (value depthLimit) t
  let rest ← lineEnd t
  let root ← doc.root.descend false (Item.enter path last v) doc.header
  some ({ doc with root }, rest)

def expressions (fuel : Nat) (doc : Document) (t : Text) : Option Document :=
  match fuel with
  | 0 => none
  | fuel + 1 =>
    match skipGap t with
    | [] => some doc
    | '[' :: '[' :: rest => do
      let (doc, rest) ← header true doc rest
      expressions fuel doc rest
    | '[' :: rest => do
      let (doc, rest) ← header false doc rest
      expressions fuel doc rest
    | t =>
      match lineEnd t with
      | some rest => expressions fuel doc rest
      | none => do
        let (doc, rest) ← assignmentLine doc t
        expressions fuel doc rest

def byteOrderMark : Char := '\ufeff'

/-- The top table of a document, each value with the origin given. -/
def read (origin : Option Text) (t : Text) : Option Value := do
  let t := match t with
    | c :: rest => if c = byteOrderMark then rest else t
    | [] => []
  let doc ← expressions (t.length + 2) ⟨.emptyTable false false, []⟩ t
  match ← doc.root.toValue? origin with
  | .table origin es => some (.table origin es)
  | _ => none

end RadioText.Config.Toml
