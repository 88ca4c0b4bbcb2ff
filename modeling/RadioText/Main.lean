import RadioText.CommandLine.Run

/-! The program. Here are the effects only: what to read and write is decided elsewhere. The engine
lives in real time, so its lines are fed to it one by one, with the time. -/
namespace RadioText.CommandLine

def ofString (s : String) : Text := s.toList

/-- The number of a system error, which some calls give with the other sign. -/
def errorNumber (code : UInt32) : Nat := min code.toNat (UInt32.size - code.toNat)

/-- The file error with a number of the system. -/
def fileError? : Nat → Option FileError
  | 2 => some .missing
  | 20 => some .notDirectory
  | 21 => some .isDirectory
  | 28 => some .noSpace
  | 36 => some .nameTooLong
  | _ => none

def fileError (e : IO.Error) : FileError :=
  let code? : Option UInt32 := match e with
    | .noFileOrDirectory _ code _ => some code
    | .inappropriateType _ code _ => some code
    | .invalidArgument _ code _ => some code
    | .resourceExhausted _ code _ => some code
    | _ => none
  ((code?.map errorNumber).bind fileError?).getD (.other (ofString (toString e)))

/-- Use a path that nothing is wrong with. -/
def atPath (path : Text) (use : String → IO α) : IO (Except FileError α) := do
  match PathName.fault? path with
  | some e => return .error e
  | none =>
    try return .ok (← use (String.ofList path))
    catch e => return .error (fileError e)

def readFile (path : Text) : IO (Except FileError Bytes) :=
  atPath path fun name => return (← IO.FS.readBinFile name).toList

/-- Read all files that may matter. -/
def readFiles (paths : List Text) : IO Files := do
  let found ← paths.mapM fun path => return (path, ← readFile path)
  return fun path => (found.lookup path).getD (.error .missing)

/-- Add to a file that is there. -/
def appendFile (path text : Text) : IO (Except FileError Unit) :=
  atPath path fun name => do
    discard (IO.FS.Handle.mk name .readWrite)
    let h ← IO.FS.Handle.mk name .append
    h.putStr (String.ofList text)
    h.flush

def print (t : Text) : IO Unit := do
  let out ← IO.getStdout
  out.putStr (String.ofList t)
  out.flush

def printLog (lines : List LogLine) : IO Unit :=
  lines.forM fun l => IO.eprintln (String.ofList l.write)

def fail (f : Failure) : IO UInt32 := do
  IO.eprintln (String.ofList f.message)
  return f.code.toUInt32

/-- The bytes of the next line with its line feed; no bytes at the end of the input. -/
partial def readLine (input : IO.FS.Stream) (line : ByteArray) : IO ByteArray := do
  let b ← input.read 1
  let line := line ++ b
  if b.isEmpty || b.toList = [Feed.lineFeed] then return line else readLine input line

/-- Milliseconds between two looks at the input. -/
def pause : UInt32 := 10

/-- Feed the lines of an input to a broadcast that started at `origin`, until it is over. -/
partial def feed (s : Session) (reload : IO (Except Text Settings)) (input : IO.FS.Stream)
    (origin : Nat) (next : Task (Except IO.Error ByteArray)) (b : Broadcast Logger) :
    IO (Broadcast Logger × Ending) := do
  let now := (← IO.monoMsNow) - origin
  if ← IO.hasFinished next then
    let bytes ← match next.get with
      | .ok bytes => pure bytes.toList
      | .error e => throw e
    if bytes.isEmpty then
      let b := b.runTimers now
      printLog (s.lines b)
      return (Session.emptied b, .inputClosed)
    let (b, ending) := { b with reloads := ⟨[], ← reload⟩ }.receive ⟨now, bytes⟩
    printLog (s.lines b)
    match ending with
    | some ending => return (Session.emptied b, ending)
    | none => feed s reload input origin (← IO.asTask (readLine input .empty)) (Session.emptied b)
  else
    let b := b.runTimers now
    printLog (s.lines b)
    IO.sleep pause
    feed s reload input origin next (Session.emptied b)

/-- Run the engine on its input, and again on the input opened anew when it ends and is no standard
input. -/
partial def broadcast (s : Session) (reload : IO (Except Text Settings)) (b : Broadcast Logger) :
    IO UInt32 := do
  let standard := s.path = standardStream
  let stop (reason : Session.Break) : IO UInt32 := do
    printLog (s.breakLines reason)
    return 1
  if let some e := PathName.fault? s.path then return ← stop (.unopened e)
  try
    let input ← if standard then IO.getStdin
      else IO.FS.Stream.ofHandle <$> IO.FS.Handle.mk (String.ofList s.path) .read
    let first ← IO.asTask (readLine input .empty)
    let (b, ending) ← feed s reload input (← IO.monoMsNow) first b
    match Session.breakOf? ending with
    | some reason => stop reason
    | none =>
      if ending = .exit || standard then return 0
      match Broadcast.start? (b.engine, []) b.reloads with
      | some b => broadcast s reload b
      | none => stop .zeroPeriod
  catch e => stop (.unopened (fileError e))

def runJob (reload : IO (Except Text Settings)) : Job → IO UInt32
  | .print t => do
    print t
    return 0
  | .deliver path t => do
    if path = standardStream then
      print t
      return 0
    match ← appendFile path t with
    | .ok _ => return 0
    | .error e => fail (.undelivered path e)
  | .broadcast s =>
    match s.start? with
    | some b => broadcast s reload b
    | none => do
      printLog (s.breakLines .zeroPeriod)
      return 1

def runInvocation (i : Invocation) : IO UInt32 := do
  let env : Environment :=
    ⟨(← IO.getEnv "CFGDIR").map ofString, (← IO.getEnv "RUST_LOG").map ofString⟩
  let sources := i.sources?.getD {}
  let files := readFiles (sources.paths env)
  let found ← if i.sources?.isSome then files else readFiles []
  match i.job env found with
  | .error f => fail f
  | .ok job => runJob (return reloaded env (← files) sources) job

end RadioText.CommandLine

open RadioText.CommandLine in
def main (args : List String) : IO UInt32 := do
  match Request.read (args.map ofString) with
  | .help c => do
    print (ofString (helpText c))
    return 0
  | .version => do
    print (ofString versionText)
    return 0
  | .misuse m => fail (.misuse m)
  | .invoke i => runInvocation i
