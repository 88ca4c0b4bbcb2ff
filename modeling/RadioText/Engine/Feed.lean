import RadioText.Text.Utf8

/-! Lines that arrive in pieces. Bytes become readable in chunks, each at its own time; a line is
complete when its line feed is there, and a last line without one when the input ends. How the
bytes are cut into chunks shows only in the times. -/
namespace RadioText

/-- Bytes that become readable at a time in milliseconds. -/
structure Chunk where
  time : Nat
  bytes : Bytes

/-- A complete line with its line feed, if it has one, and when it was complete. -/
structure Arrival where
  time : Nat
  bytes : Bytes
deriving DecidableEq

/-- A line without its line break: a line feed, and the carriage return before it. -/
def Text.dropLineBreak (t : Text) : Text :=
  match Text.before? ['\n'] t with
  | some t => t.dropReturn
  | none => t

/-- The text of a line, which must be UTF-8. -/
def Arrival.line (a : Arrival) : Except Utf8.Fault Text :=
  (Utf8.decode a.bytes).map Text.dropLineBreak

namespace Feed

def lineFeed : UInt8 := 10

/-- Lines complete so far, last first, and the bytes of the line being read, last first. -/
structure Scan where
  lines : List Arrival := []
  current : Bytes := []

def Scan.byte (time : Nat) (s : Scan) (b : UInt8) : Scan :=
  let line := b :: s.current
  if b = lineFeed then ⟨⟨time, line.reverse⟩ :: s.lines, []⟩ else { s with current := line }

def Scan.chunk (s : Scan) (c : Chunk) : Scan := c.bytes.foldl (Scan.byte c.time) s

/-- The lines of an input that ends at time `close`. -/
def arrivals (chunks : List Chunk) (close : Nat) : List Arrival :=
  let s := chunks.foldl Scan.chunk {}
  if s.current.isEmpty then s.lines.reverse
  else (⟨close, s.current.reverse⟩ :: s.lines).reverse

end Feed
end RadioText
