import RadioText.Text.Decimal

/-! The line protocol. A command is one line: a keyword, or a letter and its value, or `MAINLIST`
and a name. Writing a command and reading the line back gives the command again, unless a text
ends in a line break. -/
namespace RadioText

inductive Command
  | init | start | stop | reset | update | exit
  | title (t : Text) | artist (t : Text) | album (t : Text) | genre (t : Text)
  | trackNumber (n : UInt32)
  /-- In seconds. -/
  | trackLength (n : UInt64)
  | playlistPosition (n : UInt32)
  | playlistCount (n : UInt32)
  | mainPlaylist (name : Text)
deriving DecidableEq

/-- Why a line is not a command. -/
inductive CommandError
  | empty
  | unknown (line : Text)
  | invalidNumber (letter : Char) (value : Text)
deriving DecidableEq

def CommandError.message : CommandError → Text
  | empty => "empty command".toList
  | unknown line => "unknown command '".toList ++ line ++ ['\'']
  | invalidNumber letter value =>
    "command '".toList ++ letter :: "' expects a number, got '".toList ++ value ++ ['\'']

namespace Command

def write : Command → Text
  | init => "INIT".toList
  | start => "START".toList
  | stop => "STOP".toList
  | reset => "RESET".toList
  | update => "UPDATE".toList
  | exit => "EXIT".toList
  | title t => 'T' :: t
  | artist t => 'A' :: t
  | album t => 'B' :: t
  | genre t => 'G' :: t
  | trackNumber n => 'N' :: Decimal.write n.toNat
  | trackLength n => 'L' :: Decimal.write n.toNat
  | playlistPosition n => 'P' :: Decimal.write n.toNat
  | playlistCount n => 'C' :: Decimal.write n.toNat
  | mainPlaylist name => "MAINLIST".toList ++ name

def keyword? (line : Text) : Option Command :=
  [init, start, stop, reset, update, exit].find? (·.write = line)

/-- A number below `bound`; nothing but white space is `0`. -/
def number (bound : Nat) (letter : Char) (value : Text) : Except CommandError Nat :=
  let v := value.trim
  if v.isEmpty then .ok 0
  else match Decimal.read? bound v with
    | some n => .ok n
    | none => .error (.invalidNumber letter v)

/-- A letter and its value; `line` is the two together. -/
def lettered (line : Text) (letter : Char) (value : Text) : Except CommandError Command :=
  match letter with
  | 'T' => .ok (title value)
  | 'A' => .ok (artist value)
  | 'B' => .ok (album value)
  | 'G' => .ok (genre value)
  | 'N' => (number UInt32.size letter value).map fun n => trackNumber (.ofNat n)
  | 'L' => (number UInt64.size letter value).map fun n => trackLength (.ofNat n)
  | 'P' => (number UInt32.size letter value).map fun n => playlistPosition (.ofNat n)
  | 'C' => (number UInt32.size letter value).map fun n => playlistCount (.ofNat n)
  | _ => .error (.unknown line)

/-- Read a line; line breaks at its end do not count. -/
def read (line : Text) : Except CommandError Command :=
  let line := line.dropEnd isBreak
  match line with
  | [] => .error .empty
  | letter :: value =>
    match keyword? line with
    | some c => .ok c
    | none =>
      match Text.after? "MAINLIST".toList line with
      | some name => .ok (mainPlaylist name)
      | none => lettered line letter value

end Command
end RadioText
