import RadioText.Event
import RadioText.Proofs.Command

/-! Events as command lines. An event puts each of its texts on one line, so its commands have no
line break to lose. -/
namespace RadioText

namespace MediaEvent

theorem unbroken_payload {e : MediaEvent} {c : Command} (h : c ∈ e.commands) {t : Text}
    (ht : c.payload? = some t) : t.Unbroken := by
  have blankable (value : Text) : Text.Unbroken (if e.isBlank then [] else value.oneLine) := by
    split
    · exact Text.unbroken_nil
    · exact Text.unbroken_oneLine value
  simp only [commands, List.mem_cons, List.not_mem_nil, or_false] at h
  obtain rfl | rfl | rfl | rfl | rfl | rfl := h <;> cases ht
  · exact blankable e.title
  · exact blankable e.artist
  · exact Text.unbroken_oneLine e.album
  · exact Text.unbroken_oneLine e.genre

end MediaEvent

namespace PlaylistEvent

theorem unbroken_payload {e : PlaylistEvent} {c : Command} (h : c ∈ e.commands) {t : Text}
    (ht : c.payload? = some t) : t.Unbroken := by
  obtain h | h := List.mem_append.1 h
  · unfold actionCommands at h
    split at h
    · cases List.mem_singleton.1 h
      cases ht
    · split at h
      · cases List.mem_singleton.1 h
        cases ht
      · cases h
  · unfold sectionCommands at h
    split at h
    · simp only [List.mem_cons, List.not_mem_nil, or_false] at h
      obtain rfl | rfl | rfl := h <;> cases ht
      exact Text.unbroken_oneLine e.name
    · cases h

end PlaylistEvent

inductive PlayerEvent
  | media (e : MediaEvent)
  | playlist (e : PlaylistEvent)

namespace PlayerEvent

def commands : PlayerEvent → List Command
  | media e => e.commands
  | playlist e => e.commands

def lines : PlayerEvent → List Text
  | media e => e.lines
  | playlist e => e.lines

theorem lines_eq (e : PlayerEvent) : e.lines = e.commands.map Command.write := by
  cases e <;> rfl

theorem unbroken_payload {e : PlayerEvent} {c : Command} (h : c ∈ e.commands) {t : Text}
    (ht : c.payload? = some t) : t.Unbroken := by
  cases e with
  | media e => exact e.unbroken_payload h ht
  | playlist e => exact e.unbroken_payload h ht

theorem unbroken_line {e : PlayerEvent} {line : Text} (h : line ∈ e.lines) : line.Unbroken := by
  rw [lines_eq] at h
  obtain ⟨c, hc, rfl⟩ := List.mem_map.1 h
  exact Command.unbroken_write fun _ => unbroken_payload hc

theorem read_write {e : PlayerEvent} {c : Command} (h : c ∈ e.commands) :
    Command.read c.write = .ok c :=
  Command.read_write fun _ ht b hb => unbroken_payload h ht b (List.mem_of_getLast? hb)

/-- Each line of an event is read as the command it was written for. -/
theorem map_read_lines (e : PlayerEvent) : e.lines.map Command.read = e.commands.map .ok := by
  rw [lines_eq, List.map_map]
  exact List.map_congr_left fun _ => read_write

end PlayerEvent
end RadioText
