import RadioText.Text.Invisible

/-! Text between double quotes, on one line and with nothing invisible in it. -/
namespace RadioText.Quoted

/-- The spelling of one character: quotes, backslashes and the common controls have a letter,
what is invisible has its number. -/
def spell (c : Char) : Text :=
  match c with
  | '"' => ['\\', '"']
  | '\\' => ['\\', '\\']
  | '\n' => ['\\', 'n']
  | '\r' => ['\\', 'r']
  | '\t' => ['\\', 't']
  | '\x00' => ['\\', '0']
  | _ =>
    if Invisible.contains c then ['\\', 'u', '{'] ++ Nat.toDigits 16 c.toNat ++ ['}']
    else [c]

def quote (t : Text) : Text := '"' :: t.flatMap spell ++ ['"']

/-- Quoted texts in brackets. -/
def quoteList (ts : List Text) : Text :=
  '[' :: Text.join [',', ' '] (ts.map quote) ++ [']']

end RadioText.Quoted
