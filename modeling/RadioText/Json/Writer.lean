import RadioText.Text

/-! Writing JSON. Text stays as it is but for quotes, backslashes and controls. -/
namespace RadioText.Json

inductive Value
  | text (t : Text)
  | list (items : List Value)
  | record (members : List (Text × Value))

def hexDigit (n : Nat) : Char := Nat.digitChar n

def spell (c : Char) : Text :=
  match c with
  | '"' => ['\\', '"']
  | '\\' => ['\\', '\\']
  | '\x08' => ['\\', 'b']
  | '\x0c' => ['\\', 'f']
  | '\n' => ['\\', 'n']
  | '\r' => ['\\', 'r']
  | '\t' => ['\\', 't']
  | _ =>
    if c.toNat < 0x20 then
      ['\\', 'u', '0', '0', hexDigit (c.toNat / 16), hexDigit (c.toNat % 16)]
    else [c]

def quote (t : Text) : Text := '"' :: t.flatMap spell ++ ['"']

/-- A record of texts without any space. -/
def compactTexts (members : List (Text × Text)) : Text :=
  '{' :: Text.join [','] (members.map fun (key, v) => quote key ++ ':' :: quote v) ++ ['}']

def lineBreak (depth : Nat) : Text := '\n' :: List.replicate (2 * depth) ' '

mutual

/-- A value and then `rest`; each item and member on a line of its own, two spaces deeper than its
container. -/
def pretty (depth : Nat) : Value → Text → Text
  | .text t, rest => quote t ++ rest
  | .list [], rest => '[' :: ']' :: rest
  | .list (v :: vs), rest =>
    '[' :: lineBreak (depth + 1) ++ pretty (depth + 1) v
      (prettyItems (depth + 1) vs (lineBreak depth ++ ']' :: rest))
  | .record [], rest => '{' :: '}' :: rest
  | .record ((key, v) :: members), rest =>
    '{' :: lineBreak (depth + 1) ++ quote key ++ ':' :: ' ' :: pretty (depth + 1) v
      (prettyMembers (depth + 1) members (lineBreak depth ++ '}' :: rest))

/-- The items after the first. -/
def prettyItems (depth : Nat) : List Value → Text → Text
  | [], rest => rest
  | v :: vs, rest => ',' :: lineBreak depth ++ pretty depth v (prettyItems depth vs rest)

/-- The members after the first. -/
def prettyMembers (depth : Nat) : List (Text × Value) → Text → Text
  | [], rest => rest
  | (key, v) :: members, rest =>
    ',' :: lineBreak depth ++ quote key ++ ':' :: ' ' :: pretty depth v
      (prettyMembers depth members rest)

end

def Value.write (v : Value) : Text := pretty 0 v []

end RadioText.Json
