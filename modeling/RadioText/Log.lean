import RadioText.Text

/-! Lines of the log. -/
namespace RadioText

/-- How much a line of the log matters, the gravest first. -/
inductive Level | error | warn | info | debug | trace
deriving DecidableEq

namespace Level

def all : List Level := [error, warn, info, debug, trace]

def name : Level → String
  | error => "ERROR"
  | warn => "WARN"
  | info => "INFO"
  | debug => "DEBUG"
  | trace => "TRACE"

/-- `1` for the gravest. -/
def rank : Level → Nat
  | error => 1
  | warn => 2
  | info => 3
  | debug => 4
  | trace => 5

end Level

/-- What the part of the program called `origin` has to say: a message, and values with names. -/
structure LogLine where
  level : Level
  origin : String
  message : Text
  values : List (String × Text) := []
deriving DecidableEq

namespace LogLine

/-- The lower case hexadecimal digits of a number. -/
def hexadecimal (n : Nat) : Text := Nat.toDigits 16 n

/-- Characters that a terminal could take for commands are spelled out. -/
def spellChar (c : Char) : Text :=
  let n := c.toNat
  if n = 0x1b ∨ n = 0x07 ∨ n = 0x08 ∨ n = 0x0c ∨ n = 0x7f then
    '\\' :: 'x' :: (if n < 16 then ['0'] else []) ++ hexadecimal n
  else if 0x80 ≤ n ∧ n < 0xa0 then '\\' :: 'u' :: '{' :: hexadecimal n ++ ['}']
  else [c]

def write (l : LogLine) : Text :=
  l.level.name.toList ++ ' ' :: l.origin.toList ++ ':' :: ' ' :: l.message.flatMap spellChar
    ++ l.values.flatMap fun (name, v) => ' ' :: name.toList ++ '=' :: v

/-- Whether the line has a value with this name; the message is one. -/
def has (l : LogLine) (name : Text) : Bool :=
  name == "message".toList || l.values.any (·.1.toList == name)

end LogLine
end RadioText
