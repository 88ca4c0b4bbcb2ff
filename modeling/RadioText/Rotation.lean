import RadioText.Text

/-! Lines shown one after the other, round and round. -/
namespace RadioText

structure Rotation where
  lines : List Text := []
  /-- Where the line to show next stands. -/
  position : Nat := 0
  /-- Shown while there are no lines. -/
  fallback : Text := []

namespace Rotation

def ofLines (lines : List Text) : Rotation := { lines }

def withFallback (r : Rotation) (t : Text) : Rotation := { r with fallback := t }

/-- Other lines, from the first one on. -/
def update (r : Rotation) (lines : List Text) : Rotation := { r with lines, position := 0 }

def restart (r : Rotation) : Rotation := { r with position := 0 }

/-- The line to show now. -/
def current (r : Rotation) : Text :=
  if r.lines.isEmpty then r.fallback else (r.lines[r.position]?).getD []

/-- Move on by one line. -/
def advance (r : Rotation) : Rotation :=
  if r.lines.isEmpty then r else { r with position := (r.position + 1) % r.lines.length }

/-- The line to show now, and the rotation after it. -/
def next (r : Rotation) : Text × Rotation := (r.current, r.advance)

/-- The next item of the rotation as a source of items, and the rotation after it. -/
def item? (r : Rotation) : Option (Text × Rotation) := some r.next

/-- The next `n` lines, and the rotation after them. -/
def take (r : Rotation) : Nat → List Text × Rotation
  | 0 => ([], r)
  | n + 1 =>
    let (ts, s) := r.advance.take n
    (r.current :: ts, s)

end Rotation
end RadioText
