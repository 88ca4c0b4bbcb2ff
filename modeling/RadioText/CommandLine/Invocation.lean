import RadioText.CommandLine.Form
import RadioText.Metadata

/-! The four commands and what their arguments say. -/
namespace RadioText.CommandLine

/-- How the lines of a style are shown: as the screens of a service. -/
inductive Frame | ps | rt
deriving DecidableEq

/-- What a notification holds: an event of the player in JSON, or a command line. -/
inductive PayloadKind | media | playlist | raw
deriving DecidableEq

def PayloadKind.name : PayloadKind → String
  | media => "media"
  | playlist => "playlist"
  | raw => "raw"

/-- Where the configuration is, and where command lines are read from or written to, as far as the
arguments say. -/
structure Sources where
  config : Option Text := none
  pluginConfig : Option Text := none
  fifo : Option Text := none
deriving DecidableEq

inductive Invocation
  | render (style : Text) (m : Metadata) (frame : Option Frame) (rtSize : Nat)
  | inspect (style format : Text) (m : Metadata)
  | listFormats
  | engine (s : Sources)
  | notify (kind : PayloadKind) (payload : Text) (s : Sources)
deriving DecidableEq

/-- A number below `bound`. -/
def natural (bound : Nat) (set : Nat → α → α) : Effect α :=
  .value fun t a => (Decimal.read? bound t).map (set · a)

/-- A number below `2 ^ 32`; zero may have a minus sign. -/
def counter (set : UInt32 → α → α) : Effect α :=
  .value fun t a =>
    let number := match t with
      | '-' :: digits => (Decimal.readDigits? digits).filter (· = 0)
      | _ => Decimal.read? UInt32.size t
    number.map fun n => set (.ofNat n) a

def anyText (set : Text → α → α) : Effect α := .value fun t a => some (set t a)

/-- The options that give metadata; `on` changes the metadata of a record. -/
def metadataChoices (on : (Metadata → Metadata) → α → α) : List (Choice α) :=
  let text (name : String) (k : Field) : Choice α :=
    ⟨name, none, "Value for " ++ k.name, anyText fun t => on (·.set k t)⟩
  [text "title" .title, text "artist" .artist, text "album" .album, text "genre" .genre,
   ⟨"track", none, "Track number for \x7bN\x7d",
     counter fun n => on (·.setTrackNumber n)⟩,
   ⟨"length", none, "Track length in seconds for \x7bL\x7d",
     natural UInt64.size fun n => on (·.setTrackLength (.ofNat n))⟩,
   ⟨"position", none, "Playlist position for \x7bP\x7d",
     counter fun n => on (·.setPlaylistPosition n)⟩,
   ⟨"count", none, "Playlist item count for \x7bC\x7d",
     counter fun n => on (·.setPlaylistCount n)⟩]

/-- The options that say where things are. -/
def sourceChoices (on : (Sources → Sources) → α → α) : List (Choice α) :=
  [⟨"config", some 'c', "TOML configuration over the defaults (default: ./dynrds.toml if present)",
     anyText fun t => on ({ · with config := some t })⟩,
   ⟨"plugin-config", none,
     "Plugin settings file, over all else (default: $CFGDIR/plugin.Dynamic_RDS if present)",
     anyText fun t => on ({ · with pluginConfig := some t })⟩,
   ⟨"fifo", none, "Where command lines are (- is stdin or stdout; default: engine.fifo_path)",
     anyText fun t => on ({ · with fifo := some t })⟩]

/-- The choice that a text names among some. -/
def oneOf (choices : List (String × β)) (set : β → α → α) (t : Text) (a : α) : Option α :=
  (choices.find? (·.1.toList = t)).map fun (_, b) => set b a

structure RenderArguments where
  style : Option Text := none
  metadata : Metadata := {}
  frame : Option Frame := none
  rtSize : Nat := 32

def renderForm : Form RenderArguments where
  blank := {}
  operands := [⟨"style", "Style string", fun t a => some { a with style := some t }⟩]
  choices :=
    [⟨"frame", none, "Show the screens a transmitter would send: ps or rt",
       .value (oneOf [("ps", .ps), ("rt", .rt)] fun f a => { a with frame := some f })⟩,
     ⟨"rt-size", none, "RadioText buffer size for the frame rt (default: 32)",
       natural UInt64.size fun n a => { a with rtSize := n }⟩]
    ++ metadataChoices fun f a => { a with metadata := f a.metadata }

def RenderArguments.invocation (a : RenderArguments) : Except Misuse Invocation :=
  match a.style with
  | some style => .ok (.render style a.metadata a.frame a.rtSize)
  | none => .error (.missing "style".toList)

structure InspectArguments where
  style : Option Text := none
  format : Text := "template-treeviz".toList
  listFormats : Bool := false
  metadata : Metadata := {}

def inspectForm : Form InspectArguments where
  blank := {}
  operands := [⟨"style", "Style string", fun t a => some { a with style := some t }⟩]
  choices :=
    [⟨"format", some 'f', "Output format (default: template-treeviz)",
       anyText fun t a => { a with format := t }⟩,
     ⟨"list-formats", none, "List available formats", .flag ({ · with listFormats := true })⟩]
    ++ metadataChoices fun f a => { a with metadata := f a.metadata }

def InspectArguments.invocation (a : InspectArguments) : Except Misuse Invocation :=
  if a.listFormats then .ok .listFormats
  else match a.style with
    | some style => .ok (.inspect style a.format a.metadata)
    | none => .error (.missing "style".toList)

def engineForm : Form Sources where
  blank := {}
  choices := sourceChoices fun f s => f s

structure NotifyArguments where
  kind : Option PayloadKind := none
  payload : Option Text := none
  sources : Sources := {}

def notifyForm : Form NotifyArguments where
  blank := {}
  operands :=
    [⟨"kind", "Payload kind: media, playlist or raw",
       oneOf ([PayloadKind.media, .playlist, .raw].map fun k => (k.name, k))
         fun k a => { a with kind := some k }⟩,
     ⟨"payload", "Callback JSON, or a raw command line",
       fun t a => some { a with payload := some t }⟩]
  choices := sourceChoices fun f a => { a with sources := f a.sources }

def NotifyArguments.invocation (a : NotifyArguments) : Except Misuse Invocation :=
  match a.kind, a.payload with
  | some kind, some payload => .ok (.notify kind payload a.sources)
  | none, _ => .error (.missing "kind".toList)
  | _, none => .error (.missing "payload".toList)

/-- A command: what it does, what it takes, and how its arguments become an invocation. -/
structure Command where
  name : String
  about : String
  overview : String
  read : List Text → Except Stop Invocation

def Command.ofForm (name about : String) (f : Form α) (g : α → Except Misuse Invocation) :
    Command where
  name := name
  about := about
  overview := f.overview
  read args := do (g (← f.read args)).mapError .misuse

def commands : List Command :=
  [.ofForm "render" "Evaluate a style string against the given values" renderForm
     (·.invocation),
   .ofForm "inspect" "Show a style string at one compiler stage" inspectForm (·.invocation),
   .ofForm "engine" "Read player commands from a FIFO and drive the transmitter" engineForm
     (.ok ∘ .engine),
   .ofForm "notify" "Translate a player callback into engine commands" notifyForm
     (·.invocation)]

def command? (name : Text) : Option Command := commands.find? (·.name.toList = name)

/-- What a list of arguments asks for. -/
inductive Request
  | invoke (i : Invocation)
  /-- An overview of one command, or of all. -/
  | help (c : Option Command)
  | version
  | misuse (m : Misuse)

namespace Request

def ofCommand (c : Command) (args : List Text) : Request :=
  match c.read args with
  | .ok i => .invoke i
  | .error .help => .help (some c)
  | .error (.misuse m) => .misuse m

/-- A call for help by name, for one command or for all. -/
def ofHelp : List Text → Request
  | [] => .help none
  | name :: rest =>
    match command? name, rest with
    | some c, [] => .help (some c)
    | some _, arg :: _ => .misuse (.unknownCommand arg)
    | none, _ =>
      if name = "help".toList ∧ rest = [] then .help none else .misuse (.unknownCommand name)

/-- Before a command there are only calls for help and for the version. -/
def read : List Text → Request
  | [] => .misuse .noCommand
  | name :: args =>
    match Spelling.ofArgument name with
    | .plain _ =>
      match command? name with
      | some c => ofCommand c args
      | none => if name = "help".toList then ofHelp args else .misuse (.unknownCommand name)
    | .long n none =>
      if n = "help".toList then .help none
      else if n = "version".toList then .version
      else .misuse (.unknownOption name)
    | .short 'h' _ => .help none
    | .short 'V' _ => .version
    | _ => .misuse (.unknownOption name)

end Request

def programName : String := "dynrds"

def versionText : String := programName ++ " 0.1.0\n"

/-- The text that answers a call for help. -/
def helpText : Option Command → String
  | some c =>
    c.about ++ "\n\nUsage: " ++ programName ++ " " ++ c.name ++ " [arguments]\n" ++ c.overview
  | none =>
    "Dynamic RDS text for FM transmitters\n\nUsage: " ++ programName ++ " <command> [arguments]\n"
      ++ Form.overviewPart "Commands" (commands.map fun c => (c.name, c.about))
      ++ Form.overviewPart "Options"
        [("-h, --help", "Print help"), ("-V, --version", "Print version")]

end RadioText.CommandLine
