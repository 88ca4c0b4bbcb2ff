import RadioText.Text

/-! What a command takes on its command line. Operands stand in order; options stand anywhere, each
at most once; after `--` there are only operands. Reading goes from left to right and stops at
the first fault or at the first call for help. -/
namespace RadioText.CommandLine

/-- What is wrong with a list of arguments. -/
inductive Misuse
  | noCommand
  | unknownCommand (name : Text)
  | unknownOption (arg : Text)
  | needlessOperand (arg : Text)
  | needlessValue (option : Text)
  | noValue (option : Text)
  | badValue (name value : Text)
  | repeated (option : Text)
  | missing (operand : Text)
deriving DecidableEq

def Misuse.message : Misuse → Text
  | noCommand => "a command is required".toList
  | unknownCommand name => "no such command: ".toList ++ name
  | unknownOption arg => "no such option: ".toList ++ arg
  | needlessOperand arg => "too many arguments: ".toList ++ arg
  | needlessValue option => "this option takes no value: --".toList ++ option
  | noValue option => "this option needs a value: --".toList ++ option
  | badValue name value => "not a value for ".toList ++ name ++ ':' :: ' ' :: value
  | repeated option => "this option stands twice: --".toList ++ option
  | missing operand => "missing argument: ".toList ++ operand

/-- Why reading stops. -/
inductive Stop
  | help
  | misuse (m : Misuse)
deriving DecidableEq

/-- An argument by its spelling. -/
inductive Spelling
  | plain (t : Text)
  /-- Two hyphens. -/
  | divider
  /-- Two hyphens and a name, with what follows an equals sign. -/
  | long (name : Text) (value : Option Text)
  /-- A hyphen and a letter, with what follows the letter. -/
  | short (letter : Char) (rest : Text)

/-- What follows the equals sign that a text begins with. -/
def afterEquals? : Text → Option Text
  | '=' :: v => some v
  | _ => none

def Spelling.ofArgument : Text → Spelling
  | ['-', '-'] => .divider
  | '-' :: '-' :: t =>
    .long (t.takeWhile (· ≠ '=')) (afterEquals? (t.dropWhile (· ≠ '=')))
  | '-' :: letter :: rest => .short letter rest
  | t => .plain t

/-- What an option does to the record being filled in; a value may be refused. -/
inductive Effect (α : Type)
  | flag (set : α → α)
  | value (set? : Text → α → Option α)

structure Choice (α : Type) where
  name : String
  letter : Option Char := none
  about : String
  effect : Effect α

structure Operand (α : Type) where
  name : String
  about : String
  set? : Text → α → Option α

structure Form (α : Type) where
  operands : List (Operand α) := []
  choices : List (Choice α)
  /-- The record before any argument. -/
  blank : α

/-- The record filled in so far, the operands to come and the options used. -/
structure Progress (α : Type) where
  filled : α
  operands : List (Operand α)
  used : List String := []

namespace Progress

/-- Take an operand. -/
def operand (p : Progress α) (arg : Text) : Except Stop (Progress α) :=
  match p.operands with
  | [] => .error (.misuse (.needlessOperand arg))
  | o :: rest =>
    match o.set? arg p.filled with
    | some filled => .ok { p with filled, operands := rest }
    | none => .error (.misuse (.badValue o.name.toList arg))

/-- Take an option that has not been used yet. -/
def use (p : Progress α) (c : Choice α) (filled : α) : Except Stop (Progress α) :=
  if c.name ∈ p.used then .error (.misuse (.repeated c.name.toList))
  else .ok { p with filled, used := c.name :: p.used }

def value (p : Progress α) (c : Choice α) (set? : Text → α → Option α) (v : Text) :
    Except Stop (Progress α) :=
  match set? v p.filled with
  | some filled => p.use c filled
  | none => .error (.misuse (.badValue c.name.toList v))

end Progress

namespace Form

/-- The option that an argument names and the value that comes with it; no option for a call for
help. -/
def choose (f : Form α) (arg : Text) : Spelling → Except Stop (Option (Choice α × Option Text))
  | .long name v =>
    if name = "help".toList then
      .error (if v.isNone then .help else .misuse (.needlessValue name))
    else match f.choices.find? (·.name.toList = name) with
      | some c => .ok (some (c, v))
      | none => .error (.misuse (.unknownOption arg))
  | .short letter rest =>
    if letter = 'h' then .error .help
    else match f.choices.find? (·.letter = some letter) with
      | some c =>
        .ok (some (c, if rest.isEmpty then none else some ((afterEquals? rest).getD rest)))
      | none => .error (.misuse (.unknownOption arg))
  | _ => .ok none

/-- Take the arguments in order. -/
def take (f : Form α) (p : Progress α) : List Text → Except Stop α
  | [] => .ok p.filled
  | arg :: args =>
    match Spelling.ofArgument arg with
    | .divider => return (← args.foldlM Progress.operand p).filled
    | spelling => do
      match ← f.choose arg spelling with
      | none => f.take (← p.operand arg) args
      | some (c, attached) =>
        match c.effect, attached with
        | .flag set, none => f.take (← p.use c (set p.filled)) args
        | .flag _, some _ => .error (.misuse (.needlessValue c.name.toList))
        | .value set?, some v => f.take (← p.value c set? v) args
        | .value set?, none =>
          match args with
          | [] => .error (.misuse (.noValue c.name.toList))
          | v :: args =>
            match Spelling.ofArgument v with
            | .plain v => f.take (← p.value c set? v) args
            | _ => .error (.misuse (.noValue c.name.toList))

def read (f : Form α) (args : List Text) : Except Stop α := f.take ⟨f.blank, f.operands, []⟩ args

/-- How an option is written in an overview. -/
def spell (c : Choice α) : String :=
  let letter := match c.letter with
    | some l => String.ofList ['-', l, ',', ' ']
    | none => "    "
  let value := match c.effect with
    | .flag _ => ""
    | .value _ => " <" ++ c.name ++ ">"
  letter ++ "--" ++ c.name ++ value

/-- Two columns. -/
def table (rows : List (String × String)) : String :=
  let width := rows.foldl (fun w row => max w row.1.length) 0
  String.join (rows.map fun (a, b) => "  " ++ a.pushn ' ' (width + 2 - a.length) ++ b ++ "\n")

/-- The part of an overview with this title; nothing if it has no row. -/
def overviewPart (title : String) (rows : List (String × String)) : String :=
  if rows.isEmpty then "" else "\n" ++ title ++ ":\n" ++ table rows

/-- What a command with this form takes. -/
def overview (f : Form α) : String :=
  overviewPart "Arguments" (f.operands.map fun o => ("<" ++ o.name ++ ">", o.about))
    ++ overviewPart "Options"
      (f.choices.map (fun c => (spell c, c.about)) ++ [("-h, --help", "Print help")])

end Form
end RadioText.CommandLine
