import RadioText.Text.Shortest

/-! Writing a text as a YAML scalar. It is written plain where it is read back as that text; text
with line feeds goes into a block, what would be read as something else between single quotes,
and what has characters that do not print between double quotes. -/
namespace RadioText.Yaml

/-! ### Texts that a reader takes for something else -/

def isHexDigit (c : Char) : Bool :=
  Decimal.isDigit c || ('a' ≤ c && c ≤ 'f') || ('A' ≤ c && c ≤ 'F')

def hexValue (c : Char) : Nat :=
  if Decimal.isDigit c then Decimal.digitValue c
  else if 'a' ≤ c then c.toNat - 'a'.toNat + 10
  else c.toNat - 'A'.toNat + 10

def unsign (t : Text) : Text :=
  match t with
  | '-' :: rest => rest
  | '+' :: rest => rest
  | _ => t

/-- Zero in front of more digits, after a sign or not: text, for all its digits. -/
def zeroLed (t : Text) : Bool :=
  match unsign t with
  | '0' :: d :: rest => (d :: rest).all Decimal.isDigit
  | _ => false

/-- Digits in the radix of their mark, for a number that fits 128 bits. -/
def radixDigits (negative : Bool) (t : Text) : Bool :=
  let fits (radix : Nat) (p : Char → Bool) (ds : Text) : Bool :=
    let v := ds.foldl (fun v c => radix * v + hexValue c) 0
    !ds.isEmpty && ds.all p && if negative then v ≤ 1 <<< 127 else v < 1 <<< 128
  match t with
  | '0' :: 'x' :: ds => fits 16 isHexDigit ds
  | '0' :: 'o' :: ds => fits 8 (fun c => '0' ≤ c && c ≤ '7') ds
  | '0' :: 'b' :: ds => fits 2 (fun c => c == '0' || c == '1') ds
  | _ => false

/-- A decimal number below the range of floating point numbers of 64 bits, without sign: digits
before or after a point, then an exponent or none. -/
def isDecimal (t : Text) : Bool :=
  let whole := t.takeWhile Decimal.isDigit
  let rest := t.dropWhile Decimal.isDigit
  let (fraction, rest) := match rest with
    | '.' :: rest => (rest.takeWhile Decimal.isDigit, rest.dropWhile Decimal.isDigit)
    | _ => ([], rest)
  let exponent? : Option Int := match rest with
    | [] => some 0
    | c :: rest =>
      if c = 'e' ∨ c = 'E' then
        let digits := unsign rest
        if digits.isEmpty || !digits.all Decimal.isDigit then none
        else
          let v : Int := Decimal.value digits
          some (if rest.head? = some '-' then -v else v)
      else none
  match exponent? with
  | none => false
  | some e =>
    let digits := (whole ++ fraction).dropWhile (· == '0')
    let scale := e - fraction.length
    !(whole.isEmpty && fraction.isEmpty)
      && !Shortest.overflows digits scale

def words : List Text :=
  ["", "~", "null", "Null", "NULL", "true", "True", "TRUE", "false", "False", "FALSE",
    ".inf", ".Inf", ".INF", "+.inf", "+.Inf", "+.INF", "-.inf", "-.Inf", "-.INF",
    ".nan", ".NaN", ".NAN"].map String.toList

/-- Nothing, a truth value or a number to a reader; or digits that only look like one. -/
def ambiguous (t : Text) : Bool :=
  words.contains t || zeroLed t || isDecimal (unsign t)
    || (match t with
      | '-' :: rest => radixDigits true rest
      | '+' :: rest => radixDigits false rest
      | _ => radixDigits false t)

/-! ### Characters -/

def isLineBreak (c : Char) : Bool :=
  c == '\n' || c == '\r' || c.toNat == 0x85 || c.toNat == 0x2028 || c.toNat == 0x2029

def isPrintable (c : Char) : Bool :=
  let n := c.toNat
  n == 0x0A || (0x20 ≤ n && n ≤ 0x7E) || (0xA0 ≤ n && n != 0xFEFF && n != 0xFFFE && n != 0xFFFF)

/-- White space, a line break or the end. -/
def isGap : Option Char → Bool
  | none => true
  | some c => c == ' ' || c == '\t' || c == '\x00' || isLineBreak c

/-! ### Styles -/

inductive Style | plain | single | double | block
deriving DecidableEq

/-- Characters that mean something at the start of a plain scalar. -/
def startMarks : List Char :=
  ['#', ',', '[', ']', '{', '}', '&', '*', '!', '|', '>', '\'', '"', '%', '@', '\x60']

/-- Something that a reader of a plain scalar would take for more than text, given what stands
before and what stands after each character. -/
def marked (before : Option Char) : Text → Bool
  | [] => false
  | c :: rest =>
    (c == ':' && isGap rest.head?) || (c == '#' && isGap before) || marked (some c) rest

def startMarked (t : Text) : Bool :=
  match t with
  | [] => false
  | c :: rest =>
    startMarks.contains c || ((c == '?' || c == '-') && isGap rest.head?)
      || (Text.after? ['-', '-', '-'] t).isSome || (Text.after? ['.', '.', '.'] t).isSome

/-- Whether two neighbours are a character of the first class and one of the second. -/
def adjacent (p q : Char → Bool) : Text → Bool
  | c :: d :: rest => (p c && q d) || adjacent p q (d :: rest)
  | _ => false

def isSpace (c : Char) : Bool := c == ' '

/-- Shows the same in any block: prints, and has no space before a line break. -/
def clean (t : Text) : Bool := t.all isPrintable && !adjacent isSpace isLineBreak t

def plainAllowed (t : Text) : Bool :=
  clean t && !t.any isLineBreak && !startMarked t && !marked none t
    && !(t.head?.any isSpace) && !(t.getLast?.any isSpace)

def singleAllowed (t : Text) : Bool := clean t && !adjacent isLineBreak isSpace t

def blockAllowed (t : Text) : Bool := clean t && !t.isEmpty && !(t.getLast?.any isSpace)

def style (t : Text) : Style :=
  if t.contains '\n' then if blockAllowed t then .block else .double
  else if !ambiguous t && plainAllowed t then .plain
  else if singleAllowed t then .single
  else .double

/-! ### Writing -/

def spaces (n : Nat) : Text := List.replicate n ' '

/-- Text whose lines after each line break start at `indent`; `fresh` where such a line starts. -/
def indented (indent : Nat) (fresh : Bool) : Text → Text
  | [] => []
  | c :: rest =>
    if isLineBreak c then c :: indented indent true rest
    else (if fresh then spaces indent else []) ++ c :: indented indent false rest

/-- Indented text between single quotes; a quote is written twice. -/
def singleQuoted (indent : Nat) (t : Text) : Text :=
  let body := indented indent false (t.flatMap fun c => if c == '\'' then [c, c] else [c])
  '\'' :: body ++ (if t.getLast?.any isLineBreak then spaces indent else []) ++ ['\'']

def escapeLetter? (n : Nat) : Option Char :=
  [(0x00, '0'), (0x07, 'a'), (0x08, 'b'), (0x09, 't'), (0x0A, 'n'), (0x0B, 'v'), (0x0C, 'f'),
    (0x0D, 'r'), (0x1B, 'e'), (0x22, '"'), (0x5C, '\\'), (0x85, 'N'), (0xA0, '_'), (0x2028, 'L'),
    (0x2029, 'P')].lookup n

/-- The lowest `width` hexadecimal digits of a number. -/
def hexDigits : Nat → Nat → Text
  | 0, _ => []
  | width + 1, n => hexDigits width (n / 16) ++ [(Nat.digitChar (n % 16)).toUpper]

def spellDouble (c : Char) : Text :=
  if isPrintable c && !isLineBreak c && c != '"' && c != '\\' then [c]
  else
    match escapeLetter? c.toNat with
    | some l => ['\\', l]
    | none =>
      if c.toNat ≤ 0xFF then '\\' :: 'x' :: hexDigits 2 c.toNat
      else if c.toNat ≤ 0xFFFF then '\\' :: 'u' :: hexDigits 4 c.toNat
      else '\\' :: 'U' :: hexDigits 8 c.toNat

def doubleQuoted (t : Text) : Text := '"' :: t.flatMap spellDouble ++ ['"']

/-- How a block says where it starts and ends: the indentation if its first line does not show it,
and whether its last line break is missing or not the only one there. -/
def blockHints (t : Text) : Text :=
  let start := if t.head?.any fun c => isSpace c || isLineBreak c then ['2'] else []
  let finish := match t.reverse with
    | [] => ['-']
    | [c] => if isLineBreak c then ['+'] else ['-']
    | c :: d :: _ => if !isLineBreak c then ['-'] else if isLineBreak d then ['+'] else []
  start ++ finish

/-- A scalar to its line end, its further lines starting at `indent`. -/
def scalarLine (indent : Nat) (t : Text) : Text :=
  match style t with
  | .plain => t ++ ['\n']
  | .single => singleQuoted indent t ++ ['\n']
  | .double => doubleQuoted t ++ ['\n']
  | .block =>
    '|' :: blockHints t ++ '\n' :: indented indent true t
      ++ (if t.getLast?.any isLineBreak then [] else ['\n'])

/-- A list of texts, one scalar an item. -/
def textList (ts : List Text) : Text :=
  if ts.isEmpty then ['[', ']', '\n'] else ts.flatMap fun t => '-' :: ' ' :: scalarLine 2 t

end RadioText.Yaml
