import Mathlib.Order.Monotone.Basic
import RadioText.Proofs.Engine.Rereading

/-! Bad input and failed reloads. A line that is no command, or that asks for settings which cannot
be read, leaves nothing behind but a warning; so a run is the same without it, on the draws of the
turns that are left. -/
namespace RadioText

instance decidableEqResult {ε α : Type} [DecidableEq ε] [DecidableEq α] :
    DecidableEq (Except ε α)
  | .error a, .error b => decidable_of_iff (a = b) (Except.error.injEq a b).symm.to_iff
  | .ok a, .ok b => decidable_of_iff (a = b) (Except.ok.injEq a b).symm.to_iff
  | .error _, .ok _ => isFalse nofun
  | .ok _, .error _ => isFalse nofun

deriving instance DecidableEq for Settings, Reloads

namespace Feed

def keep {α : Type} : List Bool → List α → List α
  | [], rest => rest
  | _ :: _, [] => []
  | kept :: marks, a :: rest => if kept then a :: keep marks rest else keep marks rest

def keepBytes : List Bool → Bytes → Bytes × List Bool
  | marks, [] => ([], marks)
  | marks, b :: bytes =>
    let (rest, later) := keepBytes (if b = lineFeed then marks.tail else marks) bytes
    (if marks.headD true then b :: rest else rest, later)

def keepLines : List Bool → List Chunk → List Chunk
  | _, [] => []
  | marks, c :: chunks =>
    let (bytes, later) := keepBytes marks c.bytes
    ⟨c.time, bytes⟩ :: keepLines later chunks

theorem keepLines_cons (marks : List Bool) (time : Nat) (b : UInt8) (bytes : Bytes)
    (chunks : List Chunk) :
    ∃ rest later, keepLines (if b = lineFeed then marks.tail else marks)
        (⟨time, bytes⟩ :: chunks) = ⟨time, rest⟩ :: later ∧
      keepLines marks (⟨time, b :: bytes⟩ :: chunks) =
        ⟨time, if marks.headD true then b :: rest else rest⟩ :: later :=
  ⟨_, _, rfl, rfl⟩

theorem keep_cons {α : Type} (marks : List Bool) (a : α) (rest : List α) :
    keep marks (a :: rest) =
      if marks.headD true then a :: keep marks.tail rest else keep marks.tail rest := by
  cases marks with
  | nil => rfl
  | cons kept marks => rfl

theorem keep_sublist {α : Type} (marks : List Bool) (xs : List α) :
    (keep marks xs).Sublist xs := by
  induction xs generalizing marks with
  | nil => cases marks <;> exact .refl []
  | cons a rest ih =>
    rw [keep_cons]
    split
    · exact (ih _).cons_cons a
    · exact (ih _).cons a

/-- The lines of an input less some lines are those that are kept. -/
theorem arrivalsFrom_keepLines (marks : List Bool) (current : Bytes) (chunks : List Chunk)
    (close : Nat) :
    arrivalsFrom (if marks.headD true then current else []) (keepLines marks chunks) close =
      keep marks (arrivalsFrom current chunks close) := by
  induction current, chunks using Feed.induction generalizing marks with
  | nil current =>
    change lastLine close (if marks.headD true then current else []) =
      keep marks (lastLine close current)
    unfold lastLine
    cases current with
    | nil => cases marks <;> simp [keep]
    | cons b current =>
      rw [List.isEmpty_cons, if_neg Bool.false_ne_true, keep_cons]
      cases marks.headD true <;> cases marks.tail <;> rfl
  | next current time chunks ih => exact ih marks
  | line current time bytes chunks ih =>
    obtain ⟨rest, later, hrest, hline⟩ := keepLines_cons marks time lineFeed bytes chunks
    rw [if_pos rfl] at hrest
    have hbehind := ih marks.tail
    rw [hrest, ite_self] at hbehind
    rw [hline, arrivalsFrom_line, keep_cons, ← hbehind]
    cases marks.headD true with
    | false => rfl
    | true => exact arrivalsFrom_line current time rest later close
  | byte current time b bytes chunks hb ih =>
    obtain ⟨rest, later, hrest, hbyte⟩ := keepLines_cons marks time b bytes chunks
    rw [if_neg hb] at hrest
    have hbehind := ih marks
    rw [hrest] at hbehind
    rw [hbyte, arrivalsFrom_byte current time hb, ← hbehind]
    cases marks.headD true with
    | false => rfl
    | true => exact arrivalsFrom_byte current time hb rest later close

theorem arrivals_keepLines (marks : List Bool) (chunks : List Chunk) (close : Nat) :
    arrivals (keepLines marks chunks) close = keep marks (arrivals chunks close) := by
  rw [arrivals_eq, arrivals_eq, ← arrivalsFrom_keepLines, ite_self]

end Feed

namespace Arrival

def counts (a : Arrival) : Bool :=
  match a.line with
  | .error _ => true
  | .ok t => (Command.read t).isOk

def isLast (a : Arrival) : Bool := a.flow? = some .exit || a.flow? = none

end Arrival

namespace Reloads

def keeps (r : Reloads) (a : Arrival) : Bool :=
  if a.flow? = some (.reload false) then r.next.1.isOk else a.counts

/-- The first results in front of others; what is given ever after is not among them. -/
def before (r : Reloads) (n : Nat) (rest : Reloads) : Reloads :=
  { rest with results := r.results.take n ++ rest.results }

/-- Mark the lines of a run: `false` for those that are no command, and for an update with settings
that cannot be read. Also the results of reading the settings, less those of the lines marked
`false`. -/
def clean : Reloads → List Arrival → List Bool × Reloads
  | r, [] => ([], r)
  | r, a :: rest =>
    if a.isLast then (true :: rest.map Arrival.counts, r)
    else
      let (marks, results) := (r.drop a.reads).clean rest
      (r.keeps a :: marks, if r.keeps a then r.before a.reads results else results)

theorem drop_nil (n : Nat) (later : Except Text Settings) : drop n ⟨[], later⟩ = ⟨[], later⟩ := by
  induction n with
  | zero => rfl
  | succ n ih => exact ih

/-- Where no results are left to put in order, none are left out. -/
theorem clean_nil (later : Except Text Settings) (arrivals : List Arrival) :
    (clean ⟨[], later⟩ arrivals).2 = ⟨[], later⟩ := by
  induction arrivals with
  | nil => rfl
  | cons a rest ih =>
    have hbefore (n : Nat) : before ⟨[], later⟩ n ⟨[], later⟩ = ⟨[], later⟩ := by
      rw [before, List.take_nil]
      rfl
    rw [clean, drop_nil]
    simp only [ih, hbefore]
    split
    · rfl
    · exact ite_self _

/-- Results that are put back come first, and then the rest. -/
theorem before_clean (r : Reloads) (n : Nat) (arrivals : List Arrival) :
    (r.before n ((r.drop n).clean arrivals).2).first n = r.first n ∧
      (r.before n ((r.drop n).clean arrivals).2).drop n = ((r.drop n).clean arrivals).2 := by
  obtain ⟨results, later⟩ := r
  induction n generalizing results with
  | zero => exact ⟨rfl, rfl⟩
  | succ n ih =>
    cases results with
    | nil =>
      rw [drop_nil, clean_nil, before, List.take_nil]
      exact ⟨rfl, drop_nil _ later⟩
    | cons result results =>
      obtain ⟨hfirst, hdrop⟩ := ih results
      exact ⟨congrArg (result :: ·) hfirst, hdrop⟩

end Reloads

def Entry.isCall : Entry → Bool
  | .call _ _ => true
  | .rejected _ | .kept _ => false

theorem Entry.log?_of_not_isCall {entry : Entry} (h : entry.isCall = false) :
    ∃ message, entry.log? = some (.warn, message) := by
  cases entry with
  | call c a => cases h
  | rejected err => exact ⟨_, rfl⟩
  | kept reason => exact ⟨_, rfl⟩

variable {τ : Type}

namespace Broadcast

def calls (b : Broadcast τ) : List (Nat × Entry) := b.entries.filter fun x => x.2.isCall

structure Agrees (b b' : Broadcast τ) : Prop where
  engine : b.engine = b'.engine
  timers : b.timers = b'.timers
  calls : b.calls = b'.calls

theorem Agrees.trans {b b' b'' : Broadcast τ} (h : b.Agrees b') (h' : b'.Agrees b'') :
    b.Agrees b'' :=
  ⟨h.engine.trans h'.engine, h.timers.trans h'.timers, h.calls.trans h'.calls⟩

theorem Agrees.turn {b b' : Broadcast τ} (h : b.Agrees b') : b.turn.Agrees b'.turn :=
  ⟨h.engine, h.timers, h.calls⟩

theorem calls_record (b : Broadcast τ) (now : Nat) (r : Step τ) :
    (b.record now r).calls = b.calls ++ (r.2.map (now, ·)).filter fun x => x.2.isCall := by
  rw [calls, entries_record, List.filter_append]
  rfl

theorem Agrees.record {b b' : Broadcast τ} (h : b.Agrees b') (now : Nat) (r : Step τ) :
    (b.record now r).Agrees (b'.record now r) where
  engine := rfl
  timers := h.timers
  calls := by rw [calls_record, calls_record, h.calls]

theorem Agrees.withTimers {b b' : Broadcast τ} (h : b.Agrees b') (timers : Services Timer) :
    { b with timers }.Agrees { b' with timers } :=
  ⟨h.engine, rfl, h.calls⟩

/-- A warning is recorded, and nothing else. -/
theorem agrees_warn (b : Broadcast τ) (now : Nat) {log : List Entry}
    (h : ∀ entry ∈ log, entry.isCall = false) : (b.record now (b.engine, log)).Agrees b where
  engine := rfl
  timers := rfl
  calls := by
    have hnone : (log.map (now, ·)).filter (fun x => x.2.isCall) = [] := by
      rw [List.filter_eq_nil_iff]
      intro x hx
      obtain ⟨entry, hentry, rfl⟩ := List.mem_map.1 hx
      simp [h entry hentry]
    rw [calls_record, hnone, List.append_nil]

variable [Transmitter τ]

theorem Agrees.tick {b b' : Broadcast τ} (h : b.Agrees b') (s : Service) :
    (b.tick s).Agrees (b'.tick s) := by
  have hrecord := h.record (b.timers.get s).next (b.engine.tick s)
  unfold Broadcast.tick
  rw [← h.timers, ← h.engine]
  exact ⟨hrecord.engine, congrArg (·.modify s Timer.advance) hrecord.timers, hrecord.calls⟩

theorem Agrees.cycled {b b' : Broadcast τ} (h : b.Agrees b') (now : Nat) (restart : Bool) :
    (b.cycled now restart).Agrees (b'.cycled now restart) := by
  cases restart with
  | false => exact h
  | true =>
    have hrecord := h.record now b.engine.cycleTransmitter
    change (b.record now b.engine.cycleTransmitter).Agrees
      (b'.record now b'.engine.cycleTransmitter)
    rw [← h.engine]
    exact hrecord

theorem Agrees.reload {b b' : Broadcast τ} (h : b.Agrees b')
    (hnext : b'.reloads.next.1 = b.reloads.next.1) (now : Nat) (restart : Bool) :
    (b.reload now restart).1.Agrees (b'.reload now restart).1 ∧
      (b'.reload now restart).2 = (b.reload now restart).2 := by
  have hread : b.read.Agrees b'.read := ⟨h.engine, h.timers, h.calls⟩
  cases hresult : b.reloads.next.1 with
  | error reason =>
    rw [reload_error hresult, reload_error (hnext.trans hresult), ← h.engine]
    exact ⟨(hread.record now _).cycled now restart, rfl⟩
  | ok settings =>
    have hrecord := hread.record now (b.engine.reconfigure settings).1
    rw [reload_ok hresult, reload_ok (hnext.trans hresult), ← h.engine]
    simp only
    split
    · rw [← hrecord.engine]
      split
      · rename_i timers _
        exact ⟨(hrecord.withTimers timers).cycled now restart, rfl⟩
      · exact ⟨hrecord, rfl⟩
    · exact ⟨hrecord.cycled now restart, rfl⟩

theorem Agrees.receive {b b' : Broadcast τ} {a : Arrival}
    (h : (b.turnTo a.time).Agrees (b'.turnTo a.time))
    (hreads : b'.reloads.first a.reads = b.reloads.first a.reads) :
    (b.receive a).1.Agrees (b'.receive a).1 ∧ (b'.receive a).2 = (b.receive a).2 := by
  cases hline : a.line with
  | error fault =>
    rw [receive_error hline, receive_error hline]
    exact ⟨h, rfl⟩
  | ok t =>
    have hflow := Arrival.flow?_eq hline (b.turnTo a.time).engine
    have hrecord := h.record a.time ((b.turnTo a.time).engine.handleLine t).1
    rw [receive_ok hline, receive_ok hline, ← h.engine]
    cases hf : ((b.turnTo a.time).engine.handleLine t).2 with
    | proceed => exact ⟨hrecord, rfl⟩
    | exit => exact ⟨hrecord, rfl⟩
    | reload restart =>
      rw [hf] at hflow
      rw [Arrival.reads, hflow] at hreads
      have hnext : (b'.turnTo a.time).reloads.next.1 =
          (b.turnTo a.time).reloads.next.1 := by
        rw [(b.reads_turnTo a.time).reloads, (b'.reads_turnTo a.time).reloads]
        exact List.singleton_inj.1 hreads
      exact hrecord.reload hnext a.time restart

theorem exists_ending {a : Arrival} (h : a.isLast = true) (b : Broadcast τ) :
    ∃ b' ending, b.receive a = (b', some ending) := by
  obtain ⟨_, fault, hreceive⟩ | ⟨t, flow, _, hflow, hreceive⟩ := b.receive_cases a
  · exact ⟨_, _, hreceive⟩
  · obtain rfl : flow = .exit := by simpa [Arrival.isLast, hflow] using h
    exact ⟨_, _, hreceive⟩

/-- A line that is no command leaves a warning at most. -/
theorem exists_receive_of_not_counts {a : Arrival} (h : a.counts = false) (b : Broadcast τ) :
    ∃ b', b.receive a = (b', none) ∧ b'.Agrees (b.turnTo a.time) := by
  unfold Arrival.counts at h
  cases hline : a.line with
  | error fault => simp [hline] at h
  | ok t =>
    rw [hline] at h
    cases hc : Command.read t with
    | ok c => simp [hc, Except.isOk, Except.toBool] at h
    | error err =>
      let e := (b.turnTo a.time).engine
      have hstep : (e.handleLine t).1 = (e, (e.handleLine t).1.2) :=
        Prod.ext (Engine.engine_handleLine_error hc) rfl
      have hwarn : ∀ entry ∈ (e.handleLine t).1.2, entry.isCall = false := by
        cases err <;> simp [Engine.handleLine, hc, Entry.isCall]
      have hflow : (e.handleLine t).2 = .proceed := by cases err <;> simp [Engine.handleLine, hc]
      rw [receive_ok hline, hflow, hstep]
      exact ⟨_, rfl, (b.turnTo a.time).agrees_warn a.time hwarn⟩

/-- A line that asks for new settings does nothing else. -/
theorem receive_reload {a : Arrival} {restart : Bool} (h : a.flow? = some (.reload restart))
    (b : Broadcast τ) : b.receive a = (b.turnTo a.time).reload a.time restart := by
  unfold Arrival.flow? at h
  cases hline : a.line with
  | error fault => simp [hline] at h
  | ok t =>
    rw [receive_ok hline]
    cases hc : Command.read t with
    | error err => simp [hline, hc] at h
    | ok c =>
      rw [Engine.handleLine_ok hc]
      simp only [hline, hc, Option.some.injEq] at h
      cases c <;> cases h <;> rfl

theorem exists_receive_of_failed {a : Arrival} (hflow : a.flow? = some (.reload false))
    {b : Broadcast τ} {reason : Text} (hfailed : b.reloads.next.1 = .error reason) :
    ∃ b', b.receive a = (b', none) ∧ b'.Agrees (b.turnTo a.time) := by
  have hresult : (b.turnTo a.time).reloads.next.1 = .error reason := by
    rw [(b.reads_turnTo a.time).reloads]
    exact hfailed
  have hwarn : ∀ entry ∈ [Entry.kept reason], entry.isCall = false := by simp [Entry.isCall]
  rw [receive_reload hflow, reload_error hresult]
  refine ⟨_, rfl, ?_⟩
  exact ((b.turnTo a.time).read.agrees_warn a.time hwarn).trans ⟨rfl, rfl, rfl⟩

/-- A line that is left out leaves a warning at most. -/
theorem exists_receive_of_not_keeps {a : Arrival} {b : Broadcast τ}
    (h : b.reloads.keeps a = false) :
    ∃ b', b.receive a = (b', none) ∧ b'.Agrees (b.turnTo a.time) := by
  unfold Reloads.keeps at h
  split at h
  · cases hresult : b.reloads.next.1 with
    | error reason => exact exists_receive_of_failed ‹_› hresult
    | ok settings => simp [hresult, Except.isOk, Except.toBool] at h
  · exact exists_receive_of_not_counts h b

/-- A line takes one turn. -/
theorem draws_receive (b : Broadcast τ) (a : Arrival) :
    (b.receive a).1.draws = (b.turnTo a.time).draws := by
  have hcycled (b : Broadcast τ) (restart : Bool) :
      (b.cycled a.time restart).draws = b.draws := by cases restart <;> rfl
  obtain ⟨_, fault, hreceive⟩ | ⟨t, flow, _, _, hreceive⟩ := b.receive_cases a
  · rw [hreceive]
  · rw [hreceive]
    cases flow with
    | proceed | exit => rfl
    | reload restart =>
      obtain ⟨reason, _, heq⟩ | ⟨settings, _, heq | ⟨timers, _, heq⟩⟩ :=
        ((b.turnTo a.time).record a.time
          ((b.turnTo a.time).engine.handleLine t).1).reload_cases a.time restart
      · rw [follow, heq]
        exact hcycled _ restart
      · rw [follow, heq]
        rfl
      · rw [follow, heq]
        exact hcycled _ restart

def inputTime (close : Nat) (arrivals : List Arrival) : Nat :=
  (arrivals.map Arrival.time).headD close

theorem handle_of_tick {b : Broadcast τ} {close : Nat} {arrivals : List Arrival} {s : Service}
    (h : b.pick (inputTime close arrivals) = .tick s) :
    b.handle close arrivals = (b.tick s).handle close arrivals := by
  cases arrivals with
  | nil =>
    have hturn : b.turnTo close = (b.tick s).turnTo close := turnTo_of_tick h
    rw [handle, handle, hturn]
  | cons a rest =>
    have hturn : b.turnTo a.time = (b.tick s).turnTo a.time := turnTo_of_tick h
    rw [handle, handle, receive, receive, hturn]

theorem inputTime_le_keep {close : Nat} {arrivals : List Arrival}
    (h : (arrivals.map Arrival.time ++ [close]).Pairwise (· ≤ ·)) (marks : List Bool) :
    inputTime close arrivals ≤ inputTime close (Feed.keep marks arrivals) := by
  cases arrivals with
  | nil => cases marks <;> exact Nat.le_refl close
  | cons a rest =>
    have hle : ∀ time ∈ (Feed.keep marks (a :: rest)).map Arrival.time ++ [close],
        a.time ≤ time := by
      intro time htime
      obtain htime | htime := List.mem_append.1 htime
      · obtain ⟨kept, hkept, rfl⟩ := List.mem_map.1 htime
        obtain rfl | hrest := List.mem_cons.1 ((Feed.keep_sublist marks _).subset hkept)
        · exact Nat.le_refl _
        · exact (List.pairwise_cons.1 h).1 _ (List.mem_append_left _ (List.mem_map_of_mem hrest))
      · exact (List.pairwise_cons.1 h).1 time (List.mem_append_right _ htime)
    cases hkept : Feed.keep marks (a :: rest) with
    | nil => exact hle close (by simp)
    | cons kept others => exact hle kept.time (by simp [hkept])

structure Outcome.Agrees (o o' : Outcome τ) : Prop where
  ending : o.ending = o'.ending
  time : o.time = o'.time
  final : o.final.Agrees o'.final

/-- Without the lines that are left out there is a run that agrees: it takes the same turns, less
those of these lines. -/
def Undisturbed (close : Nat) (arrivals : List Arrival) (b : Broadcast τ) : Prop :=
  ∃ f : Nat → Nat, StrictMono f ∧ ∀ b' : Broadcast τ, b.Agrees b' →
    b'.reloads = (b.reloads.clean arrivals).2 → b'.draws = b.draws ∘ f →
    (b.handle close arrivals).Agrees
      (b'.handle close (Feed.keep (b.reloads.clean arrivals).1 arrivals))

def shared (f : Nat → Nat) : Nat → Nat
  | 0 => 0
  | n + 1 => f n + 1

theorem strictMono_shared {f : Nat → Nat} (h : StrictMono f) : StrictMono (shared f) := by
  refine strictMono_nat_of_lt_succ fun n => ?_
  cases n with
  | zero => exact Nat.succ_pos (f 0)
  | succ n => exact Nat.succ_lt_succ (h (Nat.lt_succ_self n))

theorem rest_of_shared {d d' : Draws} {f : Nat → Nat} (h : d' = d ∘ shared f) :
    d' 0 = d 0 ∧ d'.rest = d.rest ∘ f := by
  rw [h]
  exact ⟨rfl, rfl⟩

theorem Undisturbed.of_tick {b : Broadcast τ} {close : Nat} {arrivals : List Arrival}
    (horder : (arrivals.map Arrival.time ++ [close]).Pairwise (· ≤ ·)) {s : Service}
    (hpick : b.pick (inputTime close arrivals) = .tick s)
    (h : (b.tick s).Undisturbed close arrivals) : b.Undisturbed close arrivals := by
  obtain ⟨f, hf, hrun⟩ := h
  refine ⟨shared f, strictMono_shared hf, fun b' hagrees hreloads hdraws => ?_⟩
  obtain ⟨hfirst, hrest⟩ := rest_of_shared hdraws
  have hpick' : b'.pick (inputTime close (Feed.keep (b.reloads.clean arrivals).1 arrivals)) =
      .tick s := by
    rw [pick_congr hagrees.timers.symm hfirst]
    exact pick_later hpick (inputTime_le_keep horder _)
  rw [handle_of_tick hpick, handle_of_tick hpick']
  exact hrun (b'.tick s) (hagrees.tick s) hreloads hrest

/-- Only the turns of the input are left to look at. -/
theorem undisturbed_of_input {close : Nat} {arrivals : List Arrival}
    (horder : (arrivals.map Arrival.time ++ [close]).Pairwise (· ≤ ·))
    (h : ∀ b : Broadcast τ, b.pick (inputTime close arrivals) = .input →
      b.Undisturbed close arrivals) (b : Broadcast τ) : b.Undisturbed close arrivals := by
  induction b using @runTimers.induct τ _ (inputTime close arrivals) with
  | case1 b hpick => exact h b hpick
  | case2 b s hpick ih => exact .of_tick horder hpick ih

theorem Agrees.handle_cons {b b' : Broadcast τ} {a : Arrival} {close : Nat}
    {rest rest' : List Arrival}
    (h : (b.receive a).1.Agrees (b'.receive a).1 ∧ (b'.receive a).2 = (b.receive a).2)
    (hrest : (b.receive a).2 = none →
      ((b.receive a).1.handle close rest).Agrees ((b'.receive a).1.handle close rest')) :
    (b.handle close (a :: rest)).Agrees (b'.handle close (a :: rest')) := by
  obtain ⟨hagrees, hending⟩ := h
  rw [handle, handle]
  cases hreceive : b.receive a with
  | mk c ending =>
    cases hreceive' : b'.receive a with
    | mk c' ending' =>
      rw [hreceive, hreceive'] at hagrees hending hrest
      obtain rfl : ending' = ending := hending
      cases ending' with
      | none => exact hrest rfl
      | some ending => exact ⟨rfl, rfl, hagrees⟩

/-- Runs agree if they differ only in lines that are left out, and in what these have read. -/
theorem undisturbed {close : Nat} {arrivals : List Arrival}
    (horder : (arrivals.map Arrival.time ++ [close]).Pairwise (· ≤ ·)) (b : Broadcast τ) :
    b.Undisturbed close arrivals := by
  induction arrivals generalizing b with
  | nil =>
    refine undisturbed_of_input horder (fun b hpick => ?_) b
    refine ⟨id, strictMono_id, fun b' hagrees _ hdraws => ⟨rfl, rfl, ?_⟩⟩
    have hpick' : b'.pick close = .input :=
      (pick_congr hagrees.timers.symm (congrFun hdraws 0) close).trans hpick
    have hturn : b.turnTo close = b.turn := turnTo_of_input hpick
    change (b.turnTo close).Agrees (b'.turnTo close)
    rw [hturn, turnTo_of_input hpick']
    exact hagrees.turn
  | cons a rest ih =>
    refine undisturbed_of_input horder (fun b hpick => ?_) b
    obtain ⟨f, hf, hrun⟩ := ih (List.pairwise_cons.1 horder).2 (b.receive a).1
    have hturn : b.turnTo a.time = b.turn := turnTo_of_input hpick
    have hread := (b.reads_receive a).reloads
    have hdrawn : (b.receive a).1.draws = b.draws.rest := by rw [draws_receive, hturn]; rfl
    have hboth {b' : Broadcast τ} (hagrees : b.Agrees b') (hdraws : b'.draws 0 = b.draws 0) :
        b'.turnTo a.time = b'.turn ∧ (b.turnTo a.time).Agrees (b'.turnTo a.time) := by
      have hpick' : b'.pick a.time = .input :=
        (pick_congr hagrees.timers.symm hdraws a.time).trans hpick
      have hturn' : b'.turnTo a.time = b'.turn := turnTo_of_input hpick'
      rw [hturn', hturn]
      exact ⟨rfl, hagrees.turn⟩
    cases hlast : a.isLast with
    | true =>
      have hclean : b.reloads.clean (a :: rest) = (true :: rest.map Arrival.counts, b.reloads) := by
        rw [Reloads.clean, if_pos hlast]
      refine ⟨id, strictMono_id, fun b' hagrees hreloads hdraws => ?_⟩
      rw [hclean] at hreloads ⊢
      have hreceive := (hboth hagrees (congrFun hdraws 0)).2.receive (by rw [hreloads])
      refine Agrees.handle_cons hreceive fun hnone => ?_
      obtain ⟨c, ending, hending⟩ := exists_ending hlast b
      rw [hending] at hnone
      cases hnone
    | false =>
      have hclean : b.reloads.clean (a :: rest) =
          (b.reloads.keeps a :: ((b.reloads.drop a.reads).clean rest).1,
            if b.reloads.keeps a then
              b.reloads.before a.reads ((b.reloads.drop a.reads).clean rest).2
            else ((b.reloads.drop a.reads).clean rest).2) := by
        rw [Reloads.clean, if_neg (by simp [hlast])]
      cases hkeeps : b.reloads.keeps a with
      | true =>
        -- Both runs take the turn of the line, and read the same settings for it.
        rw [hkeeps, if_pos rfl] at hclean
        refine ⟨shared f, strictMono_shared hf, fun b' hagrees hreloads hdraws => ?_⟩
        rw [hclean] at hreloads ⊢
        obtain ⟨hfirst, hrest⟩ := rest_of_shared hdraws
        obtain ⟨hturn', hlater⟩ := hboth hagrees hfirst
        obtain ⟨hsame, hdrop⟩ := b.reloads.before_clean a.reads rest
        have hreceive := hlater.receive (by rw [hreloads, hsame])
        refine Agrees.handle_cons hreceive fun _ => ?_
        rw [← hread]
        refine hrun (b'.receive a).1 hreceive.1 ?_ ?_
        · rw [(b'.reads_receive a).reloads, hreloads, hdrop, hread]
        · rw [draws_receive, hturn', hdrawn]
          exact hrest
      | false =>
        -- Only the first run has the line, which leaves it as it is but for a warning.
        rw [hkeeps, if_neg Bool.false_ne_true] at hclean
        obtain ⟨c, hreceive, hc⟩ := exists_receive_of_not_keeps hkeeps
        rw [hreceive] at hread hdrawn hrun
        refine ⟨fun n => f n + 1, hf.add_const 1, fun b' hagrees hreloads hdraws => ?_⟩
        rw [hclean, ← hread] at hreloads
        rw [hclean, ← hread, handle, hreceive]
        rw [hturn] at hc
        refine hrun b' (hc.trans ⟨hagrees.engine, hagrees.timers, hagrees.calls⟩) hreloads ?_
        rw [hdraws, hdrawn]
        rfl

theorem exists_start_timers (settings : Settings) (hpaced : settings.Paced) (t : τ) :
    ∃ timers, ∀ reloads draws, start? (Engine.ofSettings settings t) reloads draws =
      some (record ⟨(Engine.ofSettings settings t).1, timers, reloads, 0, draws, []⟩ 0
        (Engine.ofSettings settings t)) := by
  obtain ⟨_, hstart, _⟩ := exists_start settings hpaced t ⟨[], .error []⟩ .timersFirst
  simp only [start?, Option.bind_eq_bind, Option.bind_eq_some_iff] at hstart
  obtain ⟨timers, htimers, _⟩ := hstart
  refine ⟨timers, fun reloads draws => ?_⟩
  rw [start?, htimers]
  rfl

/-- A run with paced settings ends in the same way, at the same time and in the same state, and makes
the same calls at the same times, if its input is without the lines that are no command and without
updates with settings that cannot be read; the log is less their warnings. It is the run on the same
draws, less those of the turns that the lines left out have taken. The settings at its end are the
last that could be read. -/
theorem run_undisturbed (settings : Settings) (t : τ) (reloads : Reloads) (chunks : List Chunk)
    (close : Nat) (draws : Draws) (hsettings : settings.Paced)
    (hchunks : (chunks.map Chunk.time ++ [close]).Pairwise (· ≤ ·)) :
    let start := Engine.ofSettings settings t
    let arrivals := Feed.arrivals chunks close
    let cleaned := reloads.clean arrivals
    ∃ f : Nat → Nat, StrictMono f ∧
    ∃ o o', run start reloads arrivals close draws = some o ∧
      run start cleaned.2 (Feed.arrivals (Feed.keepLines cleaned.1 chunks) close) close
        (draws ∘ f) = some o' ∧
      o'.ending = o.ending ∧ o'.time = o.time ∧ o'.final.calls = o.final.calls ∧
      o'.final.engine = o.final.engine ∧
      (∀ x ∈ o.final.entries ++ o'.final.entries, x.2.isCall = false →
        ∃ message, x.2.log? = some (.warn, message)) ∧
      o.final.engine.settings = settings.after (reloads.first o.final.reloadCount) := by
  intro start arrivals cleaned
  obtain ⟨timers, hstart⟩ := exists_start_timers settings hsettings t
  have horder : (arrivals.map Arrival.time ++ [close]).Pairwise (· ≤ ·) :=
    Feed.ordered_arrivals hchunks
  let b (reloads : Reloads) (draws : Draws) : Broadcast τ :=
    record ⟨start.1, timers, reloads, 0, draws, []⟩ 0 start
  obtain ⟨f, hf, hrun⟩ := undisturbed horder (b reloads draws)
  obtain ⟨hending, htime, hfinal⟩ := hrun (b cleaned.2 (draws ∘ f)) ⟨rfl, rfl, rfl⟩ rfl rfl
  obtain ⟨n, hreads⟩ := exists_reads_handle close (b reloads draws) arrivals
  have hcount : ((b reloads draws).handle close arrivals).final.reloadCount = n :=
    hreads.reloadCount.trans (Nat.zero_add n)
  refine ⟨f, hf, (b reloads draws).handle close arrivals, _, by rw [run, hstart]; rfl,
    by rw [run, hstart, Feed.arrivals_keepLines]; rfl, hending.symm, htime.symm,
    hfinal.calls.symm, hfinal.engine.symm, fun x _ hx => Entry.log?_of_not_isCall hx, ?_⟩
  rw [hcount]
  exact hreads.settings

/-- Lines that are empty, unknown or no number, and an update that fails, stand between others: a
reset that fails just the same, and an update that changes the rates. -/
theorem run_undisturbed_reset :
    let settings (ps : Nat) : Settings :=
      ⟨true, ⟨⟨"a|b".toList, ps, []⟩, ⟨"c".toList, 3, []⟩⟩, 64, .fppdStart, .never⟩
    let reloads : Reloads :=
      ⟨[.error "1".toList, .ok (settings 2), .error "2".toList, .error "3".toList], .error []⟩
    let kept : Reloads := ⟨[.ok (settings 2), .error "2".toList], .error []⟩
    let chunks : List Chunk := [⟨500, Utf8.encode "INIT\n\nUPDA".toList⟩,
      ⟨1500, Utf8.encode "TE\r\nOFF\nUPDATE\n".toList⟩, ⟨1800, Utf8.encode "Tx\nNx\n".toList⟩,
      ⟨3200, Utf8.encode "RESET\nUPDATE".toList⟩]
    let marks := [true, false, false, false, true, true, false, true, false]
    let draws : Draws := fun _ => .tick .rt
    let start := Engine.ofSettings (settings 1) ({} : Recorder)
    let without := Feed.keepLines marks chunks
    (settings 1).Paced ∧ (chunks.map Chunk.time ++ [6000]).Pairwise (· ≤ ·) ∧
      reloads.clean (Feed.arrivals chunks 6000) = (marks, kept) ∧
      without.map Chunk.bytes = [Utf8.encode "INIT\n".toList, Utf8.encode "UPDATE\n".toList,
        Utf8.encode "Tx\n".toList, Utf8.encode "RESET\n".toList] ∧
      ∃ o o', run start reloads (Feed.arrivals chunks 6000) 6000 draws = some o ∧
        run start kept (Feed.arrivals without 6000) 6000 draws = some o' ∧
        o'.ending = o.ending ∧ o'.time = o.time ∧ o'.final.calls = o.final.calls ∧
        o'.final.engine = o.final.engine ∧ o.final.engine.settings = settings 2 ∧
        showTimes .ps o.final.entries = [1000, 1500, 3500, 5500] ∧
        o.final.reloadCount = 4 ∧ o'.final.reloadCount = 2 := by
  intro settings reloads kept chunks marks draws start without
  have hpaced : (settings 1).Paced := by rintro (_ | _) <;> decide
  have hchunks : (chunks.map Chunk.time ++ [6000]).Pairwise (· ≤ ·) := by simp [chunks]
  have hclean : reloads.clean (Feed.arrivals chunks 6000) = (marks, kept) := by decide +kernel
  obtain ⟨_, _, o, o', hrun, hrun', hending, htime, hcalls, hengine, _, hsettings⟩ :=
    run_undisturbed (settings 1) ({} : Recorder) reloads chunks 6000 draws hpaced hchunks
  have hshown : (run start reloads (Feed.arrivals chunks 6000) 6000 draws).map (fun o =>
      (showTimes .ps o.final.entries, o.final.reloadCount)) =
        some ([1000, 1500, 3500, 5500], 4) := by
    dsimp only [start, reloads, chunks, settings, draws]
    decide +kernel
  have hcount : (run start kept (Feed.arrivals without 6000) 6000 draws).map
      (fun o => o.final.reloadCount) = some 2 := by
    dsimp only [start, kept, without, marks, chunks, settings, draws]
    decide +kernel
  rw [hclean] at hrun'
  change run start kept (Feed.arrivals without 6000) 6000 draws = some o' at hrun'
  rw [hrun, Option.map_some, Option.some.injEq, Prod.mk.injEq] at hshown
  rw [hrun', Option.map_some, Option.some.injEq] at hcount
  rw [hshown.2] at hsettings
  exact ⟨hpaced, hchunks, hclean, by decide +kernel, o, o', hrun, hrun', hending, htime, hcalls,
    hengine, hsettings, hshown.1, hshown.2, hcount⟩

end Broadcast
end RadioText
