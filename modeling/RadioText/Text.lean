/-! Text as a list of characters: white space, line breaks, pieces. A character counts once,
whatever its width in bytes. -/
namespace RadioText

abbrev Text := List Char

/-- White space in the sense of Unicode: the twenty-five characters with that property. -/
def isBlank (c : Char) : Bool :=
  let n := c.toNat
  (9 ≤ n && n ≤ 13) || n == 0x20 || n == 0x85 || n == 0xA0 || n == 0x1680
    || (0x2000 ≤ n && n ≤ 0x200A) || n == 0x2028 || n == 0x2029 || n == 0x202F
    || n == 0x205F || n == 0x3000

def isBreak (c : Char) : Bool := c == '\r' || c == '\n'

namespace Text

/-- Nothing to read: no character, or white space only. -/
def blank (t : Text) : Bool := t.all isBlank

/-- Without the characters satisfying `p` at its end. -/
def dropEnd (p : Char → Bool) (t : Text) : Text := (t.reverse.dropWhile p).reverse

def trimEnd (t : Text) : Text := dropEnd isBlank t

/-- Without the white space at both ends. -/
def trim (t : Text) : Text := dropEnd isBlank (t.dropWhile isBlank)

/-- What follows `start`, for a text that begins with it. -/
def after? (start : Text) : Text → Option Text :=
  match start with
  | [] => some
  | c :: start => fun
    | [] => none
    | d :: t => if c = d then after? start t else none

/-- What precedes `tail`, for a text that ends with it. -/
def before? (tail t : Text) : Option Text := (after? tail.reverse t.reverse).map List.reverse

/-- The parts between the characters equal to `sep`; one more than there are of these. -/
def split (sep : Char) (t : Text) : List Text :=
  t.foldr (fun c parts => if c = sep then [] :: parts else
    match parts with
    | [] => [[c]]
    | p :: ps => (c :: p) :: ps) [[]]

/-- A line without the one carriage return that may end it. -/
def dropReturn (t : Text) : Text := (before? ['\r'] t).getD t

/-- The lines of a text: a line feed ends a line, alone or after a carriage return. What follows the
last line feed is a line only if it is anything, and then all of it. -/
def lines (t : Text) : List Text :=
  let parts := split '\n' t
  let last := parts.getLast?.getD []
  parts.dropLast.map dropReturn ++ if last.isEmpty then [] else [last]

/-- The parts one after the other with `glue` between them. -/
def join (glue : Text) (parts : List Text) : Text := (parts.intersperse glue).flatten

/-- At most `limit` characters; a longer text is cut and says so. -/
def abbreviate (limit : Nat) (t : Text) : Text :=
  if t.length > limit then t.take limit ++ "...".toList else t

/-- How many bytes a text takes up in UTF-8. -/
def byteCount (t : Text) : Nat := t.foldr (fun c n => c.utf8Size + n) 0

/-- What follows the first `n` bytes, unless a character lies across that place. -/
def dropBytes? : Nat → Text → Option Text
  | 0, t => some t
  | _ + 1, [] => none
  | n + 1, c :: t => if c.utf8Size ≤ n + 1 then dropBytes? (n + 1 - c.utf8Size) t else none

/-- The first `n` bytes, unless a character lies across their end. -/
def takeBytes? : Nat → Text → Option Text
  | 0, _ => some []
  | _ + 1, [] => none
  | n + 1, c :: t =>
    if c.utf8Size ≤ n + 1 then (takeBytes? (n + 1 - c.utf8Size) t).map (c :: ·) else none

/-- On one line: every line break character becomes a space. -/
def oneLine (t : Text) : Text := t.map fun c => if isBreak c then ' ' else c

end Text
end RadioText
