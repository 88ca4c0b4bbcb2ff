import RadioText.Text.Alphanumeric
import RadioText.Text.Decimal
import RadioText.Text.Hexadecimal

/-! Which texts are regular expressions: groups, sets in brackets, escapes, repetition by `?`, `*`
and `+`. Repetition by counts is left out, as are names of characters in braces. -/
namespace RadioText.Pattern

/-- How a part of an expression is read: with blanks and comments left out, and with all of Unicode
in mind. -/
structure Mode where
  spaced : Bool := false
  unicode : Bool := true

/-- The text after blanks and comments; `comment` says that the text begins inside a comment. -/
def skipBlank (comment : Bool) : Text → Text
  | [] => []
  | c :: rest =>
    if comment then skipBlank (c ≠ '\n') rest
    else if isBlank c then skipBlank false rest
    else if c = '#' then skipBlank true rest
    else c :: rest

/-- The text from the next character that counts. -/
def Mode.skip (m : Mode) (t : Text) : Text := if m.spaced then skipBlank false t else t

/-! ### Escapes -/

/-- What a backslash and the characters after it stand for. -/
inductive Escape
  | char (c : Char)
  /-- A set of characters. -/
  | set
  /-- An end of the text. -/
  | edge
  /-- An end of a word, or no end of one. -/
  | wordEdge

def isMeta (c : Char) : Bool := "\\.+*?()|[]{}^$#&-~".toList.contains c

/-- Characters, letters and digits apart, that stand for themselves after a backslash. -/
def standsForItself (c : Char) : Bool :=
  isMeta c || (c.toNat < 0x80 && !c.isAlphanum && c != '<' && c != '>')

def control? : Char → Option Char
  | 'a' => some '\x07'
  | 'f' => some '\x0c'
  | 't' => some '\t'
  | 'n' => some '\n'
  | 'r' => some '\r'
  | 'v' => some '\x0b'
  | _ => none

/-- The character with the number that the first `n` digits give. -/
def numbered (n : Nat) (t : Text) : Option (Escape × Text) :=
  (Hexadecimal.char? n t).map fun c => (.char c, t.drop n)

/-- An escape after its backslash. -/
def escape? : Text → Option (Escape × Text)
  | [] => none
  | 'x' :: rest => numbered 2 rest
  | 'u' :: rest => numbered 4 rest
  | 'U' :: rest => numbered 8 rest
  | c :: rest =>
    if c = 'p' ∨ c = 'P' then
      match rest with
      | category :: rest =>
        if "clmnpsz".toList.contains category.toLower then some (.set, rest) else none
      | [] => none
    else if "dswDSW".toList.contains c then some (.set, rest)
    else if c = 'A' ∨ c = 'z' then some (.edge, rest)
    else if "bB<>".toList.contains c then some (.wordEdge, rest)
    else if standsForItself c then some (.char c, rest)
    else (control? c).map fun d => (.char d, rest)

/-! ### Sets -/

/-- A member of a set, and which character it is if it is one. -/
def setItem? : Text → Option (Option Char × Text)
  | [] => none
  | '\\' :: rest =>
    match escape? rest with
    | some (.char c, rest) => some (some c, rest)
    | some (.set, rest) => some (none, rest)
    | _ => none
  | c :: rest => some (some c, rest)

/-- A member of a set or all members from one to another. -/
def setRange? (m : Mode) (t : Text) : Option Text := do
  let (first, t) ← setItem? t
  match m.skip t with
  | [] => none
  | '-' :: rest =>
    match m.skip rest with
    | [] => none
    | ']' :: _ => some ('-' :: rest)
    | '-' :: _ => some ('-' :: rest)
    | rest =>
      let (last, rest) ← setItem? rest
      match first, last with
      | some first, some last => if first ≤ last then some rest else none
      | _, _ => none
  | rest => some rest

/-- The rest after what opens a set: the bracket has been read, and what follows may turn the set
around; hyphens and a closing bracket in front are members. -/
def openSet? (m : Mode) (t : Text) : Option Text :=
  let t := m.skip t
  let t := match t with
    | '^' :: rest => m.skip rest
    | _ => t
  let inner := t.dropWhile fun c => c = '-' || (m.spaced && isBlank c)
  match inner with
  | [] => none
  | ']' :: rest =>
    if t.head? = some '-' then some inner
    else if (m.skip rest).isEmpty then none else some rest
  | _ => some inner

/-- The rest after the name of a set of basic characters, such as `alpha` between colons. -/
def namedSet? (t : Text) : Option Text :=
  let names := ["alnum", "alpha", "ascii", "blank", "cntrl", "digit", "graph", "lower", "print",
    "punct", "space", "upper", "word", "xdigit"]
  match t with
  | ':' :: rest =>
    let rest := match rest with
      | '^' :: rest => rest
      | _ => rest
    let name := rest.takeWhile (· ≠ ':')
    match rest.drop name.length with
    | ':' :: ']' :: rest => if names.contains (String.ofList name) then some rest else none
    | _ => none
  | _ => none

/-- The rest after sets of which `depth` more than one are open. -/
def sets? (m : Mode) (fuel depth : Nat) (t : Text) : Option Text :=
  match fuel with
  | 0 => none
  | fuel + 1 =>
    match m.skip t with
    | [] => none
    | '[' :: rest =>
      match namedSet? rest with
      | some rest => sets? m fuel depth rest
      | none => do sets? m fuel (depth + 1) (← openSet? m rest)
    | ']' :: rest =>
      match depth with
      | 0 => some rest
      | depth + 1 => sets? m fuel depth rest
    | '&' :: '&' :: rest => sets? m fuel depth rest
    | '-' :: '-' :: rest => sets? m fuel depth rest
    | '~' :: '~' :: rest => sets? m fuel depth rest
    | t => do sets? m fuel depth (← setRange? m t)

/-- The rest after a set whose opening bracket has been read. -/
def set? (m : Mode) (t : Text) : Option Text := do
  sets? m (t.length + 1) 0 (← openSet? m t)

/-! ### Groups -/

/-- What stands after an opening bracket. -/
inductive Opening
  | group (m : Mode) (name : Text) (rest : Text)
  /-- A change of mode up to the end of the group around it. -/
  | change (m : Mode) (rest : Text)

/-- The mode that flags make, each given once; those after a hyphen are taken away. -/
def flags? (on : Bool) (seen : Text) (m : Mode) : Text → Option (Mode × Text)
  | [] => none
  | c :: rest =>
    if c = ':' ∨ c = ')' then if seen.head? = some '-' then none else some (m, c :: rest)
    else if seen.contains c then none
    else if c = '-' then flags? false (c :: seen) m rest
    else if c = 'x' then flags? on (c :: seen) { m with spaced := on } rest
    else if c = 'u' then flags? on (c :: seen) { m with unicode := on } rest
    else if "imsUR".toList.contains c then flags? on (c :: seen) m rest
    else none

def isNameStart (c : Char) : Bool := c == '_' || (Alphanumeric.contains c && !Decimal.isDigit c)

def isNameChar (c : Char) : Bool := c == '_' || c == '.' || c == '[' || c == ']'
  || Alphanumeric.contains c

/-- A group with a name, of which the first character and the closing sign are to come. -/
def namedGroup? (m : Mode) (t : Text) : Option Opening :=
  let name := t.takeWhile (· ≠ '>')
  match t.drop name.length with
  | _ :: rest =>
    if name.head?.any isNameStart && name.all isNameChar then some (.group m name rest) else none
  | [] => none

def opening? (m : Mode) (t : Text) : Option Opening :=
  match m.skip t with
  | '?' :: 'P' :: '<' :: rest => namedGroup? m rest
  | '?' :: '<' :: rest => namedGroup? m rest
  | '?' :: rest => do
    let (inner, after) ← flags? true [] m rest
    match after with
    | ':' :: after => some (.group inner [] after)
    | _ :: after => if rest.head? = some ')' then none else some (.change inner after)
    | [] => none
  | rest => some (.group m [] rest)

/-! ### Expressions -/

/-- Whether the rest of an expression is in order. `outer` has the modes to go back to when the open
groups end, `names` those of all groups so far, and `repeats` says that what comes before can be
repeated. -/
def scan (fuel : Nat) (outer : List Mode) (names : List Text) (m : Mode) (repeats : Bool)
    (t : Text) : Bool :=
  match fuel with
  | 0 => false
  | fuel + 1 =>
    match m.skip t with
    | [] => outer.isEmpty
    | '(' :: t =>
      match opening? m t with
      | some (.group inner name t) =>
        if name.isEmpty then scan fuel (m :: outer) names inner false t
        else !names.contains name && scan fuel (m :: outer) (name :: names) inner false t
      | some (.change m t) => scan fuel outer names m false t
      | none => false
    | ')' :: t =>
      match outer with
      | m :: outer => scan fuel outer names m true t
      | [] => false
    | '|' :: t => scan fuel outer names m false t
    | '[' :: t =>
      match set? m t with
      | some t => scan fuel outer names m true t
      | none => false
    | '\x7b' :: _ => false
    | '\\' :: t =>
      match escape? t with
      | some (.wordEdge, t) => !m.unicode && scan fuel outer names m true t
      | some (_, t) => scan fuel outer names m true t
      | none => false
    | c :: t =>
      if c = '?' ∨ c = '*' ∨ c = '+' then
        match t with
        | '?' :: t => repeats && scan fuel outer names m true t
        | _ => repeats && scan fuel outer names m true t
      else scan fuel outer names m true t

/-- Whether a text is a regular expression. Ends of words are not told apart in all of Unicode. -/
def valid (t : Text) : Bool := scan (t.length + 1) [] [] {} false t

end RadioText.Pattern
