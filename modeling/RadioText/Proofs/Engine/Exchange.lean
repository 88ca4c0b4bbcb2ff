import RadioText.Proofs.Engine.Listening

/-! An engine with another transmitter. All that comes back to an engine from its transmitter is
whether it is active and how it answers a call. So with a part of a transmitter that answers as the
whole does, an engine does what it does with the whole, in a run over time too. -/
namespace RadioText

variable {σ τ : Type}

def Engine.map (φ : σ → τ) (e : Engine σ) : Engine τ :=
  ⟨e.settings, e.channels, e.metadata, e.playlist, φ e.transmitter⟩

def Step.map (φ : σ → τ) (s : Step σ) : Step τ := (s.1.map φ, s.2)

theorem Step.map_andThen {φ : σ → τ} {f : Engine σ → Step σ} {g : Engine τ → Step τ}
    (h : ∀ e, g (e.map φ) = Step.map φ (f e)) (s : Step σ) :
    (Step.map φ s).andThen g = Step.map φ (s.andThen f) := by
  change ((g (s.1.map φ)).1, s.2 ++ (g (s.1.map φ)).2) = _
  rw [h]
  rfl

/-- A part of a transmitter that answers every call as the whole does. -/
structure Transmitter.Answers [Transmitter σ] [Transmitter τ] (φ : σ → τ) : Prop where
  isActive : ∀ t, Transmitter.isActive (φ t) = Transmitter.isActive t
  perform : ∀ t c, Transmitter.perform (φ t) c =
    ((Transmitter.perform t c).1, φ (Transmitter.perform t c).2)

variable [Transmitter σ] [Transmitter τ] {φ : σ → τ}

namespace Engine

variable (h : Transmitter.Answers φ)
include h

theorem isActive_map (e : Engine σ) : (e.map φ).isActive = e.isActive := h.isActive e.transmitter

theorem request_map (e : Engine σ) (c : Call) :
    (e.map φ).request c = ((e.request c).1, Step.map φ (e.request c).2) := by
  have hperform := h.perform e.transmitter c
  simp only [request, map, hperform]
  rfl

theorem startTransmitter_map (e : Engine σ) :
    (e.map φ).startTransmitter = Step.map φ e.startTransmitter := by
  have hrequest := request_map h e .startup
  have hsettings : (e.map φ).settings = e.settings := rfl
  rw [startTransmitter, startTransmitter, isActive_map h, hsettings, hrequest]
  split
  · rfl
  · cases e.request .startup with
    | mk a s => cases a <;> rfl

theorem stopTransmitter_map (e : Engine σ) :
    (e.map φ).stopTransmitter = Step.map φ e.stopTransmitter := by
  rw [stopTransmitter, stopTransmitter, isActive_map h, request_map h]
  split <;> rfl

theorem cycleTransmitter_map (e : Engine σ) :
    (e.map φ).cycleTransmitter = Step.map φ e.cycleTransmitter := by
  rw [cycleTransmitter, cycleTransmitter, isActive_map h, stopTransmitter_map h]
  refine Step.map_andThen (fun e' => ?_) _
  have hsettings : (e'.map φ).settings = e'.settings := rfl
  rw [startTransmitter_map h, hsettings]
  split <;> rfl

theorem tick_map (e : Engine σ) (s : Service) : (e.map φ).tick s = Step.map φ (e.tick s) := by
  rw [tick, tick, isActive_map h]
  split
  · exact congrArg Prod.snd (request_map h
      { e with channels := e.channels.modify s Channel.advance } _)
  · rfl

theorem apply_map (e : Engine σ) (c : Command) :
    (e.map φ).apply c = (Step.map φ (e.apply c).1, (e.apply c).2) := by
  have hsettings : (e.map φ).settings = e.settings := rfl
  cases c with
  | init | start =>
    rw [apply, apply, startTransmitter_map h, hsettings]
    split <;> rfl
  | stop =>
    have hmode (e' : Engine σ) :
        (if (e'.map φ).settings.stop = .playlistStop then (e'.map φ).stopTransmitter
          else (e'.map φ, [])) =
        Step.map φ (if e'.settings.stop = .playlistStop then e'.stopTransmitter else (e', [])) := by
      rw [stopTransmitter_map h, apply_ite (Step.map φ)]
      rfl
    exact congrArg (·, Flow.proceed) (hmode (e.withMetadata e.metadata.clearTrack).refresh)
  | exit => exact congrArg (·, Flow.exit) (stopTransmitter_map h e)
  | _ => rfl

theorem handleLine_map (e : Engine σ) (line : Text) :
    (e.map φ).handleLine line = (Step.map φ (e.handleLine line).1, (e.handleLine line).2) := by
  cases hc : Command.read line with
  | ok c => rw [handleLine_ok hc, handleLine_ok hc, apply_map h]
  | error err => cases err <;> simp [handleLine, hc] <;> rfl

theorem reconfigure_map (e : Engine σ) (s : Settings) :
    (e.map φ).reconfigure s = (Step.map φ (e.reconfigure s).1, (e.reconfigure s).2) := by
  have hperform := h.perform e.transmitter (.rtSize s.rtSize)
  have hadopted : (e.map φ).adopted s = (e.adopted s).map φ := by
    have hrestyles : (e.map φ).restyles s = e.restyles s := rfl
    simp only [adopted, hrestyles]
    simp only [map, hperform]
    split <;> rfl
  have hanswer : (Transmitter.perform (e.map φ).transmitter (.rtSize s.rtSize)).1 =
      (Transmitter.perform e.transmitter (.rtSize s.rtSize)).1 := congrArg Prod.fst hperform
  refine Prod.ext ?_ rfl
  change ((e.map φ).reconfigure s).1 = Step.map φ (e.reconfigure s).1
  rw [reconfigure_eq, reconfigure_eq, hadopted, hanswer]
  refine Step.map_andThen (fun e' => ?_) (e.adopted s, [_])
  have hsettings : (e.map φ).settings = e.settings := rfl
  rw [hsettings, stopTransmitter_map h]
  split <;> rfl

theorem act_map (e : Engine σ) (a : Action) : (e.map φ).act a = Step.map φ (e.act a) := by
  cases a with
  | line t => exact congrArg Prod.fst (handleLine_map h e t)
  | tick s => exact tick_map h e s
  | refresh => rfl
  | reconfigure s => exact congrArg Prod.fst (reconfigure_map h e s)
  | cycle => exact cycleTransmitter_map h e

theorem ofSettings_map (s : Settings) (t : σ) :
    ofSettings s (φ t) = Step.map φ (ofSettings s t) := by
  have hrequest := request_map h
    ⟨s, s.services.map Channel.ofSettings, Metadata.empty, none, t⟩ (.rtSize s.rtSize)
  exact congrArg (fun r => (r.2.1.refresh, r.2.2)) hrequest

end Engine

inductive Order
  | command (c : Command)
  | action (a : Action)

namespace Engine

def obey (e : Engine τ) : Order → Step τ
  | .command c => (e.apply c).1
  | .action a => e.act a

theorem obey_map (h : Transmitter.Answers φ) (e : Engine σ) (o : Order) :
    (e.map φ).obey o = Step.map φ (e.obey o) := by
  cases o with
  | command c => exact congrArg Prod.fst (apply_map h e c)
  | action a => exact act_map h e a

theorem leads_obey (e : Engine τ) (o : Order) :
    Leads e.transmitter (e.obey o).2 (e.obey o).1.transmitter := by
  cases o with
  | command c => exact e.leads_apply c
  | action a => exact e.leads_act a

end Engine

namespace Step

def obey (s : Step τ) (orders : List Order) : Step τ :=
  orders.foldl (fun s o => s.andThen fun e => e.obey o) s

theorem obey_map (h : Transmitter.Answers φ) (s : Step σ) (orders : List Order) :
    (Step.map φ s).obey orders = Step.map φ (s.obey orders) := by
  induction orders generalizing s with
  | nil => rfl
  | cons o orders ih =>
    have hfirst : (Step.map φ s).andThen (fun e => e.obey o) =
        Step.map φ (s.andThen fun e => e.obey o) :=
      map_andThen (fun e => Engine.obey_map h e o) s
    change ((Step.map φ s).andThen fun e => e.obey o).obey orders = _
    rw [hfirst, ih]
    rfl

theorem leads_obey {t : τ} {s : Step τ} (h : Leads t s.2 s.1.transmitter) (orders : List Order) :
    Leads t (s.obey orders).2 (s.obey orders).1.transmitter := by
  induction orders generalizing s with
  | nil => exact h
  | cons o orders ih => exact ih (leads_andThen h fun e => e.leads_obey o)

end Step

namespace Broadcast

def map (φ : σ → τ) (b : Broadcast σ) : Broadcast τ :=
  ⟨b.engine.map φ, b.timers, b.reloads, b.reloadCount, b.draws, b.log⟩

def Outcome.map (φ : σ → τ) (o : Outcome σ) : Outcome τ := ⟨o.ending, o.time, o.final.map φ⟩

section
variable (h : Transmitter.Answers φ)
include h

theorem tick_map (b : Broadcast σ) (s : Service) : (b.map φ).tick s = (b.tick s).map φ := by
  have hstep := Engine.tick_map h b.engine s
  change { ((b.map φ).record _ ((b.engine.map φ).tick s)).turn with
    timers := b.timers.modify s Timer.advance } = _
  rw [hstep]
  rfl

theorem turnTo_map (b : Broadcast σ) (time : Nat) :
    (b.map φ).turnTo time = (b.turnTo time).map φ :=
  congrArg turn (runTimers_comm (f := map φ) (fun _ time => pick_congr rfl rfl time)
    (fun b s => tick_map h b s) b time)

theorem cycled_map (b : Broadcast σ) (now : Nat) (restart : Bool) :
    (b.map φ).cycled now restart = (b.cycled now restart).map φ := by
  cases restart with
  | false => rfl
  | true =>
    change (b.map φ).record now (b.engine.map φ).cycleTransmitter = _
    rw [Engine.cycleTransmitter_map h]
    rfl

theorem reload_map (b : Broadcast σ) (now : Nat) (restart : Bool) :
    (b.map φ).reload now restart =
      ((b.reload now restart).1.map φ, (b.reload now restart).2) := by
  cases hresult : b.reloads.next.1 with
  | error reason =>
    have hresult' : (b.map φ).reloads.next.1 = .error reason := hresult
    rw [reload_error hresult, reload_error hresult', ← cycled_map h]
    rfl
  | ok settings =>
    have hresult' : (b.map φ).reloads.next.1 = .ok settings := hresult
    have hstep : (b.map φ).engine.reconfigure settings =
        (Step.map φ (b.engine.reconfigure settings).1, (b.engine.reconfigure settings).2) :=
      Engine.reconfigure_map h b.engine settings
    have hadopted : (b.map φ).read.record now (Step.map φ (b.engine.reconfigure settings).1) =
        (b.read.record now (b.engine.reconfigure settings).1).map φ := rfl
    rw [reload_ok hresult, reload_ok hresult']
    simp only [hstep, hadopted]
    generalize b.read.record now (b.engine.reconfigure settings).1 = adopted
    have hchannels : (adopted.map φ).engine.channels = adopted.engine.channels := rfl
    rw [hchannels]
    split
    · cases timers? now adopted.engine.channels with
      | none => rfl
      | some timers => exact congrArg (·, none) (cycled_map h { adopted with timers } now restart)
    · exact congrArg (·, none) (cycled_map h adopted now restart)

theorem follow_map (b : Broadcast σ) (now : Nat) (flow : Flow) :
    (b.map φ).follow now flow = ((b.follow now flow).1.map φ, (b.follow now flow).2) := by
  cases flow with
  | proceed | exit => rfl
  | reload restart => exact reload_map h b now restart

theorem receive_map (b : Broadcast σ) (a : Arrival) :
    (b.map φ).receive a = ((b.receive a).1.map φ, (b.receive a).2) := by
  cases hline : a.line with
  | error fault => rw [receive_error hline, receive_error hline, turnTo_map h]
  | ok t =>
    rw [receive_ok hline, receive_ok hline, turnTo_map h, ← follow_map h]
    change (((b.turnTo a.time).map φ).record a.time
      (((b.turnTo a.time).engine.map φ).handleLine t).1).follow a.time
      (((b.turnTo a.time).engine.map φ).handleLine t).2 = _
    rw [Engine.handleLine_map h]
    rfl

theorem handle_map (close : Nat) (b : Broadcast σ) (arrivals : List Arrival) :
    (b.map φ).handle close arrivals = (b.handle close arrivals).map φ := by
  induction arrivals generalizing b with
  | nil => exact congrArg (Outcome.mk .inputClosed close) (turnTo_map h b close)
  | cons a rest ih =>
    rw [handle, handle, receive_map h]
    cases b.receive a with
    | mk b' ending =>
      cases ending with
      | none => exact ih b'
      | some ending => rfl

theorem run_map (s : Step σ) (reloads : Reloads) (arrivals : List Arrival) (close : Nat)
    (draws : Draws) :
    run (Step.map φ s) reloads arrivals close draws =
      (run s reloads arrivals close draws).map (Outcome.map φ) := by
  have hstart : start? (Step.map φ s) reloads draws = (start? s reloads draws).map (map φ) := by
    have hchannels : (Step.map φ s).1.channels = s.1.channels := rfl
    rw [start?, start?, hchannels]
    cases timers? 0 s.1.channels <;> rfl
  rw [run, run, hstart, Option.map_map, Option.map_map]
  exact congrArg (Option.map · _) (funext fun b => handle_map h close b arrivals)

end
end Broadcast
end RadioText
