import RadioText.Json.Writer
import RadioText.Style.Field
import RadioText.Text.Decimal

/-! What is known about the current track and playlist: for each field a text, or nothing.
An empty text and the number `0` are nothing. -/
namespace RadioText

/-- Seconds as minutes and seconds, `M:SS`. Minutes are not carried into hours. -/
def trackLength (seconds : UInt64) : Text :=
  Decimal.write (seconds / 60).toNat ++ ':' :: Decimal.writeTwo (seconds % 60).toNat

structure Metadata where
  title : Option Text := none
  artist : Option Text := none
  album : Option Text := none
  genre : Option Text := none
  trackNumber : Option Text := none
  trackLength : Option Text := none
  playlistCount : Option Text := none
  playlistPosition : Option Text := none
deriving DecidableEq

namespace Metadata

def empty : Metadata := {}

/-- What is kept for a field. -/
def stored (m : Metadata) : Field → Option Text
  | .title => m.title
  | .artist => m.artist
  | .album => m.album
  | .genre => m.genre
  | .trackNumber => m.trackNumber
  | .trackLength => m.trackLength
  | .playlistCount => m.playlistCount
  | .playlistPosition => m.playlistPosition

def assign (m : Metadata) (k : Field) (v : Option Text) : Metadata :=
  match k with
  | .title => { m with title := v }
  | .artist => { m with artist := v }
  | .album => { m with album := v }
  | .genre => { m with genre := v }
  | .trackNumber => { m with trackNumber := v }
  | .trackLength => { m with trackLength := v }
  | .playlistCount => { m with playlistCount := v }
  | .playlistPosition => { m with playlistPosition := v }

theorem stored_assign (m : Metadata) (j k : Field) (v : Option Text) :
    (m.assign k v).stored j = if j = k then v else m.stored j := by
  cases j <;> cases k <;> rfl

/-- The value of a field. An empty text would be none, but no setter keeps one. -/
def value? (m : Metadata) (k : Field) : Option Text := (m.stored k).filter fun t => !t.isEmpty

def clear (m : Metadata) (k : Field) : Metadata := m.assign k none

def set (m : Metadata) (k : Field) (v : Text) : Metadata :=
  m.assign k (if v.isEmpty then none else some v)

def setCounter (m : Metadata) (k : Field) (n : UInt32) : Metadata :=
  m.assign k (if n = 0 then none else some (Decimal.write n.toNat))

def setTrackNumber (m : Metadata) (n : UInt32) : Metadata := m.setCounter .trackNumber n

def setPlaylistPosition (m : Metadata) (n : UInt32) : Metadata :=
  m.setCounter .playlistPosition n

def setPlaylistCount (m : Metadata) (n : UInt32) : Metadata := m.setCounter .playlistCount n

def setTrackLength (m : Metadata) (seconds : UInt64) : Metadata :=
  m.assign .trackLength (if seconds = 0 then none else some (RadioText.trackLength seconds))

/-- Forget the track and keep the playlist. -/
def clearTrack (m : Metadata) : Metadata :=
  { playlistCount := m.playlistCount, playlistPosition := m.playlistPosition }

/-- The fields that have a value, in the order of `Field.all`. -/
def entries (m : Metadata) : List (Field × Text) :=
  Field.all.filterMap fun k => (m.stored k).map (k, ·)

def isEmpty (m : Metadata) : Bool := m.entries.isEmpty

/-- The values as JSON, in the order of the fields. -/
def toJson (m : Metadata) : Text :=
  "\x7b\"values\":".toList ++ Json.compactTexts (m.entries.map fun (k, v) => (k.name.toList, v))
    ++ ['}']

end Metadata
end RadioText
