import RadioText.Framing
import RadioText.Text.Quoted

/-! What puts text on air. The engine decides what to show and when; a transmitter carries the calls
out or refuses them. -/
namespace RadioText

/-- The two text services: Program Service and RadioText. -/
inductive Service | ps | rt
deriving DecidableEq

/-- One value for each service. -/
structure Services (α : Type) where
  ps : α
  rt : α

namespace Services

def get (x : Services α) : Service → α
  | .ps => x.ps
  | .rt => x.rt

def map (f : α → β) (x : Services α) : Services β := ⟨f x.ps, f x.rt⟩

def modify (s : Service) (f : α → α) (x : Services α) : Services α :=
  match s with
  | .ps => { x with ps := f x.ps }
  | .rt => { x with rt := f x.rt }

end Services

inductive Call
  | startup
  | shutdown
  /-- Show one line of a service. -/
  | show (s : Service) (line : Text)
  /-- The RadioText buffer has this size from now on. -/
  | rtSize (n : Nat)
deriving DecidableEq

/-- What comes of a call: it is carried out, or refused by a transmitter that is not active. -/
inductive Answer | done | inactive
deriving DecidableEq

def inactiveMessage : String := "transmitter is not active"

class Transmitter (τ : Type) where
  isActive : τ → Bool
  perform : τ → Call → Answer × τ

/-- Keeps what it was asked to do. -/
structure Recorder where
  /-- The calls carried out, last first. -/
  sent : List Call := []
  active : Bool := false

def Recorder.perform (r : Recorder) : Call → Answer × Recorder
  | .startup => (.done, ⟨.startup :: r.sent, true⟩)
  | .shutdown => (.done, ⟨.shutdown :: r.sent, false⟩)
  | .show s line =>
    if r.active then (.done, { r with sent := .show s line :: r.sent }) else (.inactive, r)
  | .rtSize _ => (.done, r)

instance : Transmitter Recorder := ⟨Recorder.active, Recorder.perform⟩

/-- The calls carried out, in order. -/
def Recorder.calls (r : Recorder) : List Call := r.sent.reverse

/-- The lines of one service among the calls carried out. -/
def Recorder.lines (s : Service) (r : Recorder) : List Text :=
  r.calls.filterMap fun
    | .show s' line => if s' = s then some line else none
    | _ => none

/-- What a transmitter writes to the log instead of a register. -/
inductive Record
  | starting
  | stopping
  | screens (ts : List Text)
  | frame (t : Text)
deriving DecidableEq

namespace Record

def message : Record → String
  | starting => "transmitter starting"
  | stopping => "transmitter stopping"
  | screens _ => "PS"
  | frame _ => "RT"

/-- A frame on one line: the end mark is spelled out. -/
def spellFrame (t : Text) : Text := t.flatMap fun c => if c = rtEnd then ['\\', 'r'] else [c]

/-- The named value of a record, if it has one. -/
def value? : Record → Option (String × Text)
  | screens ts => some ("fragments", Quoted.quoteList ts)
  | frame t => some ("fragment", spellFrame t)
  | _ => none

end Record

/-- Cuts text to size and logs it. -/
structure Logger where
  rtSize : Nat
  active : Bool := false
  /-- Last first. -/
  records : List Record := []

def Logger.perform (l : Logger) : Call → Answer × Logger
  | .startup => (.done, { l with active := true, records := .starting :: l.records })
  | .shutdown => (.done, { l with active := false, records := .stopping :: l.records })
  | .show s line =>
    if l.active then
      let record := match s with
        | .ps => Record.screens (psScreens line)
        | .rt => Record.frame (rtFrame line l.rtSize)
      (.done, { l with records := record :: l.records })
    else (.inactive, l)
  | .rtSize n => (.done, { l with rtSize := n })

instance : Transmitter Logger := ⟨Logger.active, Logger.perform⟩

/-- Which calls a failing transmitter refuses, and whether it always says it is off. -/
structure Faults where
  startup : Bool := false
  shutdown : Bool := false
  ps : Bool := false
  rt : Bool := false
  dead : Bool := false

def Faults.refuses (f : Faults) : Call → Bool
  | .startup => f.startup
  | .shutdown => f.shutdown
  | .show .ps _ => f.ps
  | .show .rt _ => f.rt
  | .rtSize _ => false

/-- A transmitter with faults. A call it refuses has no effect. -/
structure Faulty (τ : Type) where
  inner : τ
  faults : Faults := {}

def Faulty.perform [Transmitter τ] (f : Faulty τ) (c : Call) : Answer × Faulty τ :=
  if f.faults.refuses c then (.inactive, f)
  else
    let (a, inner) := Transmitter.perform f.inner c
    (a, { f with inner })

instance [Transmitter τ] : Transmitter (Faulty τ) :=
  ⟨fun f => !f.faults.dead && Transmitter.isActive f.inner, Faulty.perform⟩

end RadioText
