import RadioText.Text.Utf8

/-! Files by their paths: what can go wrong when one is opened, and a folder of files that is known
as a whole. -/
namespace RadioText

/-- Why a file cannot be opened, or not be added to. -/
inductive FileError
  | missing
  /-- A path leads through a file. -/
  | notDirectory
  | isDirectory
  | nameTooLong
  /-- No path has a zero character in it. -/
  | zeroInName
  | noSpace
  | other (reason : Text)
deriving DecidableEq

def FileError.message : FileError → Text
  | missing => "No such file or directory (os error 2)".toList
  | notDirectory => "Not a directory (os error 20)".toList
  | isDirectory => "Is a directory (os error 21)".toList
  | nameTooLong => "File name too long (os error 36)".toList
  | zeroInName => "file name contained an unexpected NUL byte".toList
  | noSpace => "No space left on device (os error 28)".toList
  | other reason => reason

/-- What reading the files of a system gives, path by path. -/
abbrev Files := Text → Except FileError Bytes

namespace PathName

/-- Parts of a path that lead nowhere else: single dots and what is between two slashes. -/
def stays (part : Text) : Bool := part == [] || part == ['.']

/-- The part that leads out of a folder. -/
def climbs (part : Text) : Bool := part == ['.', '.']

def parts (path : Text) : List Text := Text.split '/' path

/-- Most bytes in a whole path. -/
def lengthLimit : Nat := 4095

/-- Most bytes in one part of a path. -/
def partLimit : Nat := 255

/-- What is wrong with a path wherever it may lead. -/
def fault? (path : Text) : Option FileError :=
  if path.contains '\x00' then some .zeroInName
  else if path.isEmpty then some .missing
  else if lengthLimit < Text.byteCount path then some .nameTooLong
  else none

def partTooLong (part : Text) : Bool := partLimit < Text.byteCount part

/-- A path without the parts that lead nowhere else. -/
def tidy (path : Text) : Text :=
  let relative := Text.join ['/'] ((parts path).filter fun part => !stays part)
  if path.head? = some '/' then '/' :: relative else relative

end PathName

/-- What stands in the file system but is no file. -/
inductive Device
  /-- It takes everything and holds nothing. -/
  | null
  /-- It takes nothing. -/
  | full
  | input
  | output
  | messages
deriving DecidableEq

namespace Device

def all : List Device := [null, full, input, output, messages]

def name : Device → String
  | null => "null"
  | full => "full"
  | input => "stdin"
  | output => "stdout"
  | messages => "stderr"

def place (d : Device) : List Text := ["dev".toList, d.name.toList]

end Device

/-- Directories that every system has. -/
def systemDirectories : List (List Text) :=
  ["bin", "boot", "dev", "etc", "home", "lib", "media", "mnt", "opt", "proc", "root", "run", "sbin",
    "srv", "sys", "tmp", "usr", "var"].map fun name => [name.toList]

/-- The files in the current folder and the folders in it, by the parts of their paths. A folder
is there if a file is in it. -/
structure Folder where
  files : List (List Text × Bytes) := []

namespace Folder

inductive Node
  | file (content : Bytes)
  | directory
  | nothing

def node (f : Folder) (place : List Text) : Node :=
  match f.files.lookup place with
  | some content => .file content
  | none =>
    if place = [] ∨ f.files.any fun (p, _) => place.isPrefixOf p then .directory else .nothing

/-- What comes of a path that leaves the folder for one above it, where nothing is known but that
there are directories. -/
def above : List Text → FileError
  | [] => .isDirectory
  | part :: rest =>
    if PathName.stays part || PathName.climbs part then above rest
    else if PathName.partTooLong part then .nameTooLong
    else .missing

/-- Where the parts of a path lead from a place in the folder. -/
def walk (f : Folder) (place : List Text) : List Text → Except FileError (List Text)
  | [] => .ok place
  | part :: rest =>
    match f.node place with
    | .nothing => .error .missing
    | .file _ => .error .notDirectory
    | .directory =>
      if PathName.stays part then f.walk place rest
      else if PathName.climbs part then
        if place = [] then .error (above rest) else f.walk place.dropLast rest
      else if PathName.partTooLong part then .error .nameTooLong
      else f.walk (place ++ [part]) rest

/-- What is at the end of a path that can be opened. -/
inductive Target
  | file (place : List Text)
  | device (d : Device)

/-- What an absolute path leads to from a place: nothing but directories and devices of the system.
Devices are no directories. -/
def systemTarget (place : List Text) : List Text → Except FileError Target
  | [] => .error .isDirectory
  | part :: rest =>
    if PathName.stays part then systemTarget place rest
    else if PathName.climbs part then systemTarget place.dropLast rest
    else if PathName.partTooLong part then .error .nameTooLong
    else
      let place := place ++ [part]
      if systemDirectories.contains place then systemTarget place rest
      else match Device.all.find? fun d => d.place = place with
        | some d => if rest.isEmpty then .ok (.device d) else .error .notDirectory
        | none => .error .missing

def target (f : Folder) (path : Text) : Except FileError Target := do
  match PathName.fault? path with
  | some e => throw e
  | none =>
    match path with
    | '/' :: rest => systemTarget [] (PathName.parts rest)
    | _ =>
      let place ← f.walk [] (PathName.parts path)
      match f.node place with
      | .file _ => return .file place
      | .directory => throw .isDirectory
      | .nothing => throw .missing

/-- The files for a run with this standard input. -/
def read (f : Folder) (input : Bytes) : Files := fun path => do
  match ← f.target path with
  | .file place => return (f.files.lookup place).getD []
  | .device .input => return input
  | .device _ => return []

/-- Whether a path leads to a device. -/
def leadsTo (f : Folder) (d : Device) (path : Text) : Bool :=
  match f.target path with
  | .ok (.device e) => e = d
  | _ => false

/-- Add to the end of a file that is there. -/
def append (f : Folder) (path : Text) (content : Bytes) : Except FileError Folder := do
  match ← f.target path with
  | .file place =>
    return ⟨f.files.map fun (p, old) => if p = place then (p, old ++ content) else (p, old)⟩
  | .device .full => throw .noSpace
  | .device _ => return f

def ofList (files : List (Text × Bytes)) : Folder :=
  ⟨files.map fun (path, content) => ((PathName.parts path).filter (! PathName.stays ·), content)⟩

end Folder
end RadioText
