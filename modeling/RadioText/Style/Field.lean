import RadioText.Text

/-! The values a style can refer to, one letter each. -/
namespace RadioText

inductive Field
  | title | artist | album | genre | trackNumber
  /-- Written `M:SS`. -/
  | trackLength
  /-- How many items the main playlist section has. -/
  | playlistCount
  /-- Where the current item stands in the main playlist section, from 1. -/
  | playlistPosition
deriving DecidableEq

namespace Field

def all : List Field :=
  [title, artist, album, genre, trackNumber, trackLength, playlistCount, playlistPosition]

def code : Field → Char
  | title => 'T'
  | artist => 'A'
  | album => 'B'
  | genre => 'G'
  | trackNumber => 'N'
  | trackLength => 'L'
  | playlistCount => 'C'
  | playlistPosition => 'P'

/-- The field of a letter. Case matters. -/
def ofCode? (c : Char) : Option Field := all.find? (·.code = c)

/-- What the tree view calls it. -/
def label : Field → String
  | title => "Title"
  | artist => "Artist"
  | album => "Album"
  | genre => "Genre"
  | trackNumber => "Track Number"
  | trackLength => "Track Length"
  | playlistCount => "Playlist Count"
  | playlistPosition => "Playlist Position"

/-- The label in one word, as structured output names the field. -/
def name : Field → String
  | title => "Title"
  | artist => "Artist"
  | album => "Album"
  | genre => "Genre"
  | trackNumber => "TrackNumber"
  | trackLength => "TrackLength"
  | playlistCount => "PlaylistCount"
  | playlistPosition => "PlaylistPosition"

/-- The reference as a style spells it. -/
def display (k : Field) : Text := ['{', k.code, '}']

end Field
end RadioText
