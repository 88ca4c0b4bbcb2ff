import RadioText.Proofs.Engine.Run
import RadioText.Proofs.Rotation

/-! What an engine shows, and what it is made from: the settings, the metadata, the templates and
the lines. Calls to the transmitter and ticks leave all of it alone, whatever the transmitter
answers; a command can change the metadata, new settings the templates, and a refresh the lines. -/
namespace RadioText

def Command.revise (m : Metadata) : Command → Metadata
  | .stop => m.clearTrack
  | .title t => m.set .title t
  | .artist t => m.set .artist t
  | .album t => m.set .album t
  | .genre t => m.set .genre t
  | .trackNumber n => m.setTrackNumber n
  | .trackLength n => m.setTrackLength n
  | .playlistPosition n => m.setPlaylistPosition n
  | .playlistCount n => m.setPlaylistCount n
  | _ => m

def Action.revise (m : Metadata) : Action → Metadata
  | .line t =>
    match Command.read t with
    | .ok c => c.revise m
    | .error _ => m
  | _ => m

def Command.refreshes : Command → Bool
  | .stop | .trackLength _ | .playlistPosition _ | .playlistCount _ => true
  | _ => false

structure Display where
  settings : Settings
  metadata : Metadata
  templates : Services Template
  lines : Services (List Text)

namespace Display

def refresh (d : Display) : Display :=
  { d with lines := d.templates.map (Template.evaluate · d.metadata) }

def withMetadata (d : Display) (m : Metadata) : Display := { d with metadata := m }

end Display

namespace Engine

variable {τ : Type}

def display (e : Engine τ) : Display :=
  ⟨e.settings, e.metadata, e.channels.map (·.cache.template), e.channels.map (·.rotation.lines)⟩

theorem lines_display (e : Engine τ) (s : Service) : e.display.lines.get s = e.lines s := by
  cases s <;> rfl

@[simp] theorem display_refresh (e : Engine τ) : e.refresh.display = e.display.refresh := rfl

def configured (e : Engine τ) (s : Settings) : Display :=
  ⟨s, e.metadata,
    ⟨(e.channels.ps.cache.update s.services.ps.style).1.template,
      (e.channels.rt.cache.update s.services.rt.style).1.template⟩,
    e.display.lines⟩

variable [Transmitter τ]

@[simp] theorem display_request (e : Engine τ) (c : Call) :
    (e.request c).2.1.display = e.display := rfl

@[simp] theorem display_startTransmitter (e : Engine τ) :
    e.startTransmitter.1.display = e.display := by
  unfold startTransmitter
  split
  · rfl
  · have hrequest := display_request e .startup
    split <;> rename_i h <;> rw [h] at hrequest <;> exact hrequest

@[simp] theorem display_stopTransmitter (e : Engine τ) :
    e.stopTransmitter.1.display = e.display := by
  unfold stopTransmitter
  split <;> rfl

@[simp] theorem display_cycleTransmitter (e : Engine τ) :
    e.cycleTransmitter.1.display = e.display := by
  unfold cycleTransmitter Step.andThen
  simp only
  split
  · rw [display_startTransmitter, display_stopTransmitter]
  · rw [display_stopTransmitter]

@[simp] theorem display_tick (e : Engine τ) (s : Service) :
    (e.tick s).1.display = e.display := by
  unfold tick
  split
  · rw [display_request]
    cases s <;> simp [display, Services.modify, Services.map, Channel.advance]
  · rfl

theorem display_ofSettings (s : Settings) (transmitter : τ) :
    (ofSettings s transmitter).1.display =
      Display.refresh ⟨s, .empty, s.services.map (Template.ofStyle ·.style), ⟨[], []⟩⟩ := rfl

theorem display_apply (e : Engine τ) (c : Command) :
    (e.apply c).1.1.display =
      if c.refreshes then (e.display.withMetadata (c.revise e.metadata)).refresh
      else e.display.withMetadata (c.revise e.metadata) := by
  cases c with
  | init | start =>
    rw [apply]
    split
    · exact display_startTransmitter e
    · rfl
  | stop =>
    rw [apply]
    simp only
    split
    · exact display_stopTransmitter _
    · rfl
  | exit => exact display_stopTransmitter e
  | _ => rfl

/-- New settings refresh the lines only if one of the styles is another. -/
theorem display_reconfigure (e : Engine τ) (s : Settings) :
    (e.reconfigure s).1.1.display =
      if e.restyles s then (e.configured s).refresh else e.configured s := by
  unfold reconfigure Step.andThen
  simp only
  by_cases hr : e.restyles s = true
  · rw [if_pos hr, if_pos hr]
    split
    · rw [display_stopTransmitter]
      rfl
    · rfl
  · rw [if_neg hr, if_neg hr]
    split
    · rw [display_stopTransmitter]
      rfl
    · rfl

end Engine
end RadioText
