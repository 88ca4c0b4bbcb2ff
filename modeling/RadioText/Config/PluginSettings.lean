import RadioText.Text

/-! The settings file that the player writes for its plugin: one assignment a line, the value mostly
in double quotes. Lines of any other form are skipped. -/
namespace RadioText.PluginSettings

def isKeyChar (c : Char) : Bool := c.isAlphanum || c == '_'

/-- Without double quotes around it, if it has both. -/
def unquote (v : Text) : Text :=
  match v with
  | '"' :: rest => (Text.before? ['"'] rest).getD v
  | _ => v

/-- The key and the value of a line. -/
def assignment? (line : Text) : Option (Text × Text) :=
  let line := line.dropWhile isBlank
  let key := line.takeWhile isKeyChar
  match (line.dropWhile isKeyChar).dropWhile isBlank with
  | '=' :: value => if key.isEmpty then none else some (key, unquote (Text.trim value))
  | _ => none

/-- The assignments of a file in order, with repetitions. -/
def read (content : Text) : List (Text × Text) := content.lines.filterMap assignment?

def fileName : Text := "plugin.Dynamic_RDS".toList

/-- Where the player keeps its settings unless told otherwise. -/
def stockDirectory : Text := "/home/fpp/media/config".toList

/-- The settings file in a directory. -/
def fileIn (directory : Text) : Text :=
  match directory.getLast? with
  | none => fileName
  | some '/' => directory ++ fileName
  | some _ => directory ++ '/' :: fileName

/-- The settings file in the directory that the player has set, if it has. -/
def defaultFile (directory : Option Text) : Text := fileIn (directory.getD stockDirectory)

end RadioText.PluginSettings
