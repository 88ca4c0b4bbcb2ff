import RadioText.Command
import RadioText.Json.Reader

/-! What the player reports when an item or a playlist starts or stops, and the command lines that
pass it on. No text of an event can break out of its line. -/
namespace RadioText

/-- A playlist item starts. -/
structure MediaEvent where
  kind : Text := []
  title : Text := []
  artist : Text := []
  album : Text := []
  genre : Text := []
  track : UInt32 := 0
  /-- In seconds. -/
  length : UInt64 := 0

namespace MediaEvent

/-- Pauses and events have no usable title or artist. -/
def isBlank (e : MediaEvent) : Bool :=
  e.kind.isEmpty || e.kind == "pause".toList || e.kind == "event".toList

/-- The commands for an event. The length comes last, since it ends the track's values. -/
def commands (e : MediaEvent) : List Command :=
  [.title (if e.isBlank then [] else e.title.oneLine),
   .artist (if e.isBlank then [] else e.artist.oneLine),
   .album e.album.oneLine, .genre e.genre.oneLine,
   .trackNumber e.track, .trackLength e.length]

def lines (e : MediaEvent) : List Text := e.commands.map Command.write

def slots : List (Json.Slot MediaEvent) :=
  [.text "type" fun t e => { e with kind := t },
   .text "title" fun t e => { e with title := t },
   .text "artist" fun t e => { e with artist := t },
   .text "album" fun t e => { e with album := t },
   .text "genre" fun t e => { e with genre := t },
   .natural UInt32.size "track" fun n e => { e with track := .ofNat n },
   .natural UInt64.size "length" fun n e => { e with length := .ofNat n }]

def read (payload : Text) : Except Json.Fault MediaEvent := Json.readRecord slots {} payload

end MediaEvent

/-- A playlist starts, stops or goes on to its next item. -/
structure PlaylistEvent where
  action : Text := []
  sectionName : Text := []
  name : Text := []
  /-- Where the item stands in its section, from 1. -/
  position : UInt32 := 0
  count : UInt32 := 0

namespace PlaylistEvent

def actionCommands (e : PlaylistEvent) : List Command :=
  if e.action = "start".toList then [.start]
  else if e.action = "stop".toList ∨ e.action = [] then [.stop]
  else []

/-- Only the main section has a name and counters. -/
def sectionCommands (e : PlaylistEvent) : List Command :=
  if e.sectionName = "MainPlaylist".toList then
    [.mainPlaylist e.name.oneLine, .playlistCount e.count, .playlistPosition e.position]
  else []

def commands (e : PlaylistEvent) : List Command := e.actionCommands ++ e.sectionCommands

def lines (e : PlaylistEvent) : List Text := e.commands.map Command.write

def slots : List (Json.Slot PlaylistEvent) :=
  [.text "Action" fun t e => { e with action := t },
   .text "Section" fun t e => { e with sectionName := t },
   .text "name" fun t e => { e with name := t },
   .natural UInt32.size "currentEntry" fun n e => { e with position := .ofNat n },
   .natural UInt32.size "size" fun n e => { e with count := .ofNat n }]

def read (payload : Text) : Except Json.Fault PlaylistEvent := Json.readRecord slots {} payload

end PlaylistEvent

/-- Command lines written out together: a line feed between each two of them and one at the end. -/
def written (lines : List Text) : Text := Text.join ['\n'] lines ++ ['\n']

end RadioText
