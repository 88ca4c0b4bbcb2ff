import RadioText.Command
import RadioText.Log
import RadioText.Rotation
import RadioText.Settings
import RadioText.Style.Cache

/-! The engine: it takes commands, keeps the metadata, and shows one line after the other on both
services. The lines of a service are those of its style at the last refresh; commands that only
give a track's values do not refresh, the one that ends them does. -/
namespace RadioText

/-- One service: its template, its lines and its rate. -/
structure Channel where
  cache : Cache
  rotation : Rotation
  rate : Nat

namespace Channel

def ofSettings (s : ServiceSettings) : Channel :=
  ⟨Cache.ofStyle s.style, ({} : Rotation).withFallback s.fallback, s.rate⟩

def refresh (m : Metadata) (c : Channel) : Channel :=
  { c with rotation := c.rotation.update (c.cache.evaluate m) }

def restart (c : Channel) : Channel := { c with rotation := c.rotation.restart }

def advance (c : Channel) : Channel := { c with rotation := c.rotation.advance }

/-- Take over new settings, but no new lines yet. -/
def reconfigure (s : ServiceSettings) (c : Channel) : Channel :=
  ⟨(c.cache.update s.style).1, c.rotation.withFallback s.fallback, s.rate⟩

end Channel

/-- Something the engine did that can be observed. -/
inductive Entry
  | call (c : Call) (a : Answer)
  /-- A line that is no command. -/
  | rejected (e : CommandError)
  /-- Settings that could not be read again. -/
  | kept (reason : Text)
deriving DecidableEq

namespace Entry

/-- The call that an entry says was carried out. -/
def sent? : Entry → Option Call
  | call c .done => some c
  | _ => none

/-- What a call that was refused is called in the log. -/
def refusal? : Call → Option (Level × String)
  | .startup => some (.error, "transmitter startup failed: ")
  | .shutdown => some (.error, "transmitter shutdown failed: ")
  | .show .ps _ => some (.warn, "PS update failed: ")
  | .show .rt _ => some (.warn, "RT update failed: ")
  | .rtSize _ => none

/-- The line that an entry puts into the log. -/
def log? : Entry → Option (Level × Text)
  | call _ .done => none
  | call c .inactive =>
    (refusal? c).map fun (level, what) => (level, what.toList ++ inactiveMessage.toList)
  | rejected e => some (.warn, "ignoring command: ".toList ++ e.message)
  | kept reason => some (.warn, "keeping current settings: ".toList ++ reason)

end Entry

/-- What is left to do after a command. -/
inductive Flow
  | proceed
  | reload (restart : Bool)
  | exit
deriving DecidableEq

structure Engine (τ : Type) where
  settings : Settings
  channels : Services Channel
  metadata : Metadata
  /-- The main playlist last announced. -/
  playlist : Option Text
  transmitter : τ

/-- An engine and what it did on the way there. -/
abbrev Step (τ : Type) := Engine τ × List Entry

/-- One thing after the other. -/
def Step.andThen (s : Step τ) (f : Engine τ → Step τ) : Step τ :=
  let (e, entries) := f s.1
  (e, s.2 ++ entries)

namespace Engine

variable {τ : Type} [Transmitter τ]

def isActive (e : Engine τ) : Bool := Transmitter.isActive e.transmitter

def lines (s : Service) (e : Engine τ) : List Text := (e.channels.get s).rotation.lines

/-- Make a call; also the answer to it. -/
def request (e : Engine τ) (c : Call) : Answer × Step τ :=
  let (a, transmitter) := Transmitter.perform e.transmitter c
  (a, { e with transmitter }, [.call c a])

/-- Give both services the lines of their styles for the metadata of now. -/
def refresh (e : Engine τ) : Engine τ :=
  { e with channels := e.channels.map (Channel.refresh e.metadata) }

def ofSettings (s : Settings) (transmitter : τ) : Step τ :=
  let e : Engine τ := ⟨s, s.services.map Channel.ofSettings, Metadata.empty, none, transmitter⟩
  let (e, entries) := (e.request (.rtSize s.rtSize)).2
  (e.refresh, entries)

/-- Bring the transmitter up, unless it is up or must stay off; both services then start over. -/
def startTransmitter (e : Engine τ) : Step τ :=
  if !e.settings.enabled || e.isActive then (e, [])
  else
    match e.request .startup with
    | (.done, e, entries) => ({ e with channels := e.channels.map Channel.restart }, entries)
    | (.inactive, e, entries) => (e, entries)

def stopTransmitter (e : Engine τ) : Step τ :=
  if e.isActive then (e.request .shutdown).2 else (e, [])

/-- Take the transmitter down, and up again if it was up or is to be up with the daemon. -/
def cycleTransmitter (e : Engine τ) : Step τ :=
  let wasActive := e.isActive
  Step.andThen e.stopTransmitter fun e =>
    if wasActive || e.settings.start = .fppdStart then e.startTransmitter else (e, [])

def withMetadata (e : Engine τ) (m : Metadata) : Engine τ := { e with metadata := m }

def apply (e : Engine τ) : Command → Step τ × Flow
  | .init => (if e.settings.start = .fppdStart then e.startTransmitter else (e, []), .proceed)
  | .start => (if e.settings.start = .playlistStart then e.startTransmitter else (e, []), .proceed)
  | .stop =>
    let e := (e.withMetadata e.metadata.clearTrack).refresh
    (if e.settings.stop = .playlistStop then e.stopTransmitter else (e, []), .proceed)
  | .reset => ((e, []), .reload true)
  | .update => ((e, []), .reload false)
  | .exit => (e.stopTransmitter, .exit)
  | .title t => ((e.withMetadata (e.metadata.set .title t), []), .proceed)
  | .artist t => ((e.withMetadata (e.metadata.set .artist t), []), .proceed)
  | .album t => ((e.withMetadata (e.metadata.set .album t), []), .proceed)
  | .genre t => ((e.withMetadata (e.metadata.set .genre t), []), .proceed)
  | .trackNumber n => ((e.withMetadata (e.metadata.setTrackNumber n), []), .proceed)
  | .trackLength n => (((e.withMetadata (e.metadata.setTrackLength n)).refresh, []), .proceed)
  | .playlistPosition n =>
    (((e.withMetadata (e.metadata.setPlaylistPosition n)).refresh, []), .proceed)
  | .playlistCount n =>
    (((e.withMetadata (e.metadata.setPlaylistCount n)).refresh, []), .proceed)
  | .mainPlaylist name =>
    (({ e with playlist := if name.isEmpty then none else some name }, []), .proceed)

/-- Take one line. A line that is no command changes nothing; an empty one goes unmentioned. -/
def handleLine (e : Engine τ) (line : Text) : Step τ × Flow :=
  match Command.read line with
  | .ok c => e.apply c
  | .error .empty => ((e, []), .proceed)
  | .error err => ((e, [.rejected err]), .proceed)

/-- Show the next line of a service, if the transmitter is up. -/
def tick (s : Service) (e : Engine τ) : Step τ :=
  if e.isActive then
    let line := (e.channels.get s).rotation.current
    (({ e with channels := e.channels.modify s Channel.advance }).request (.show s line)).2
  else (e, [])

/-- Whether a style differs from the one a channel has. -/
def restyles (e : Engine τ) (s : Settings) : Bool :=
  (e.channels.ps.cache.update s.services.ps.style).2
    || (e.channels.rt.cache.update s.services.rt.style).2

/-- Take over new settings; also whether a rate is another than before. Only other styles bring
other lines, and only a switch from enabled to disabled takes the transmitter down. -/
def reconfigure (e : Engine τ) (s : Settings) : Step τ × Bool :=
  let ratesChanged :=
    e.channels.ps.rate != s.services.ps.rate || e.channels.rt.rate != s.services.rt.rate
  let restyled := e.restyles s
  let disabled := e.settings.enabled && !s.enabled
  let channels : Services Channel :=
    ⟨e.channels.ps.reconfigure s.services.ps, e.channels.rt.reconfigure s.services.rt⟩
  let (e, entries) := (({ e with channels }).request (.rtSize s.rtSize)).2
  let e := { e with settings := s }
  let e := if restyled then e.refresh else e
  (Step.andThen (e, entries) fun e => if disabled then e.stopTransmitter else (e, []), ratesChanged)

end Engine
end RadioText
