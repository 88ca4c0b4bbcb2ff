import RadioText.Text

/-! The tokens of a style. Every character belongs to exactly one token, so reading a style
as tokens cannot fail, and writing the tokens back gives the style. `spans` takes the longest token
from the front, time after time; `ofStyle` gives the same tokens without their places, by recursion
on the characters. -/
namespace RadioText

inductive Token
  | fieldOpen | fieldClose | groupOpen | groupClose | pipe
  /-- A control character that a backslash makes literal. -/
  | escaped (c : Char)
  /-- A backslash that stands for itself. -/
  | backslash
  | text (t : Text)
deriving DecidableEq

namespace Token

/-- The structural token of a control character. -/
def control? : Char → Option Token
  | '{' => some fieldOpen
  | '}' => some fieldClose
  | '[' => some groupOpen
  | ']' => some groupClose
  | '|' => some pipe
  | _ => none

/-- The control character of a structural token. -/
def controlChar? : Token → Option Char
  | fieldOpen => some '{'
  | fieldClose => some '}'
  | groupOpen => some '['
  | groupClose => some ']'
  | pipe => some '|'
  | _ => none

def kind : Token → String
  | fieldOpen => "FieldOpen"
  | fieldClose => "FieldClose"
  | groupOpen => "GroupOpen"
  | groupClose => "GroupClose"
  | pipe => "Pipe"
  | escaped _ => "Escaped"
  | backslash => "Backslash"
  | text _ => "Text"

/-- What the token stands for where it has no structural role. -/
def literal : Token → Text
  | fieldOpen => ['{']
  | fieldClose => ['}']
  | groupOpen => ['[']
  | groupClose => [']']
  | pipe => ['|']
  | escaped c => [c]
  | backslash => ['\\']
  | text t => t

/-- The token as a style spells it. -/
def display : Token → Text
  | escaped c => ['\\', c]
  | t => t.literal

/-- Put one character in front of a style already read: it joins a run of text, or a backslash
takes the control character after it, or it starts a token of its own. -/
def push (c : Char) (ts : List Token) : List Token :=
  match control? c with
  | some t => t :: ts
  | none =>
    if c = '\\' then
      match ts with
      | [] => [backslash]
      | t :: rest =>
        match t.controlChar? with
        | some d => escaped d :: rest
        | none => backslash :: ts
    else
      match ts with
      | text r :: rest => text (c :: r) :: rest
      | _ => text [c] :: ts

/-- Read a style as tokens, from its end. -/
def ofStyle (style : Text) : List Token := style.foldr push []

/-- A token with the byte offsets where its spelling starts and ends. -/
structure Span where
  token : Token
  first : Nat
  past : Nat

/-- A token, how a style spells it, and the style behind it. -/
structure Lexeme where
  token : Token
  spelling : Text
  rest : Text

/-- A character that is text wherever it stands. -/
def isPlain (c : Char) : Bool := (control? c).isNone && c != '\\'

/-- The longest token that a style with at least one character begins with. -/
def lexeme (c : Char) (style : Text) : Lexeme :=
  match control? c with
  | some t => ⟨t, [c], style⟩
  | none =>
    if c = '\\' then
      match style with
      | [] => ⟨backslash, [c], []⟩
      | d :: rest =>
        if (control? d).isSome then ⟨escaped d, [c, d], rest⟩ else ⟨backslash, [c], style⟩
    else
      let run := c :: style.takeWhile isPlain
      ⟨text run, run, style.dropWhile isPlain⟩

theorem length_rest_lexeme (c : Char) (style : Text) :
    (lexeme c style).rest.length ≤ style.length := by
  unfold lexeme
  split
  · exact Nat.le_refl _
  split
  · split
    · exact Nat.le_refl _
    · split
      · exact Nat.le_succ _
      · exact Nat.le_refl _
  · exact (List.dropWhile_sublist isPlain).length_le

/-- Each token of a style with its place, read from the front; the first starts at `start` and each
at the end of the one before. -/
def spansFrom (start : Nat) : Text → List Span
  | [] => []
  | c :: style =>
    let next := lexeme c style
    let past := start + next.spelling.byteCount
    ⟨next.token, start, past⟩ :: spansFrom past next.rest
termination_by style => style.length
decreasing_by exact Nat.lt_succ_of_le (length_rest_lexeme c style)

def spans (style : Text) : List Span := spansFrom 0 style

end Token
end RadioText
