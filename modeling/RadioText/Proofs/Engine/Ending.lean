import RadioText.Proofs.Engine.Disabled
import RadioText.Proofs.Engine.Undisturbed

/-! How a run ends. The first line that says EXIT, or cannot be read, ends it, and what would have
come after that line is never looked at: neither the rest of the input nor the settings that were
not read yet. Without such a line the run ends with its input. -/
namespace RadioText

def Arrival.IsExit (a : Arrival) : Prop := ∃ t, a.line = .ok t ∧ Command.read t = .ok .exit

def Arrival.GoOn (arrivals : List Arrival) : Prop :=
  ∀ a ∈ arrivals, ∃ t, a.line = .ok t ∧ Command.read t ≠ .ok .exit

theorem Arrival.isLast_eq_false {a : Arrival} {t : Text} (hline : a.line = .ok t)
    (hexit : Command.read t ≠ .ok .exit) : a.isLast = false := by
  cases hc : Command.read t with
  | error err => simp [isLast, flow?, hline, hc]
  | ok c =>
    rw [hc] at hexit
    cases c <;> simp_all [isLast, flow?, Command.flow]

/-- A line feed parts an input: the lines up to it stay as they are, whatever comes behind it. -/
theorem Feed.arrivals_parted (done : List Chunk) (time : Nat) (bytes rest : Bytes)
    (later : List Chunk) (close : Nat) :
    arrivals (done ++ ⟨time, bytes ++ lineFeed :: rest⟩ :: later) close =
      arrivals (done ++ [⟨time, bytes ++ [lineFeed]⟩]) time ++
        arrivalsFrom [] (⟨time, rest⟩ :: later) close := by
  let s := bytes.foldl (Scan.byte time) (done.foldl Scan.chunk {})
  let lines : List Arrival := ⟨time, (lineFeed :: s.current).reverse⟩ :: s.lines
  have hbyte : s.byte time lineFeed = Scan.behind lines ⟨[], []⟩ := by
    rw [Scan.byte, if_pos rfl]
    rfl
  have hheard : List.foldl Scan.chunk {} (done ++ [⟨time, bytes ++ [lineFeed]⟩]) =
      Scan.behind lines ⟨[], []⟩ := by
    simp only [List.foldl_append, List.foldl_cons, List.foldl_nil, Scan.chunk]
    exact hbyte
  have hall : List.foldl Scan.chunk {} (done ++ ⟨time, bytes ++ lineFeed :: rest⟩ :: later) =
      Scan.behind lines (List.foldl Scan.chunk ⟨[], []⟩ (⟨time, rest⟩ :: later)) := by
    rw [← Scan.chunks_behind, ← hbyte]
    simp only [List.foldl_append, List.foldl_cons, Scan.chunk]
    rfl
  rw [arrivals_eq, arrivals_eq, arrivalsFrom, arrivalsFrom, arrivalsFrom]
  rw [hheard, hall]
  simp [Scan.behind, lastLine]

theorem Reloads.mem_of_mem_first {n : Nat} {r : Reloads} {result : Except Text Settings}
    (h : result ∈ r.first n) : result ∈ r.results ∨ r.later = result := by
  induction n generalizing r with
  | zero => cases h
  | succ n ih =>
    rw [first, next] at h
    cases hr : r.results with
    | nil =>
      rw [hr] at h
      obtain rfl | h := List.mem_cons.1 h
      · exact .inr rfl
      · exact hr ▸ ih h
    | cons head rest =>
      rw [hr] at h
      obtain rfl | h := List.mem_cons.1 h
      · exact .inl List.mem_cons_self
      · exact (ih h).imp_left (List.mem_cons_of_mem head)

theorem Reloads.Paced.first {r : Reloads} (h : r.Paced) {s : Settings} {n : Nat}
    (hs : .ok s ∈ r.first n) : s.Paced :=
  h s (r.mem_of_mem_first hs)

theorem Reloads.length_first (n : Nat) (r : Reloads) : (r.first n).length = n := by
  induction n generalizing r with
  | zero => rfl
  | succ n ih => exact congrArg (· + 1) (ih r.next.2)

variable {τ : Type} [Transmitter τ]

namespace Broadcast

def reading (r : Reloads) (b : Broadcast τ) : Broadcast τ := { b with reloads := r }

def through (b : Broadcast τ) (arrivals : List Arrival) : Broadcast τ :=
  arrivals.foldl (fun b a => (b.receive a).1) b

theorem turnTo_reading (r : Reloads) (b : Broadcast τ) (time : Nat) :
    (b.reading r).turnTo time = (b.turnTo time).reading r :=
  congrArg turn (runTimers_comm (f := reading r) (fun _ time => pick_congr rfl rfl time)
    (fun _ _ => rfl) b time)

theorem reload_reading {r : Reloads} {b : Broadcast τ} (h : r.next.1 = b.reloads.next.1)
    (now : Nat) (restart : Bool) :
    (b.reading r).reload now restart =
      ((b.reload now restart).1.reading r.next.2, (b.reload now restart).2) := by
  have hcycled (b : Broadcast τ) :
      (b.reading r.next.2).cycled now restart = (b.cycled now restart).reading r.next.2 := by
    cases restart <;> rfl
  cases hresult : b.reloads.next.1 with
  | error reason =>
    rw [reload_error hresult, reload_error (b := b.reading r) (h.trans hresult), ← hcycled]
    rfl
  | ok settings =>
    rw [reload_ok hresult, reload_ok (b := b.reading r) (h.trans hresult)]
    have hengine : (b.reading r).engine = b.engine := rfl
    have hchannels : ((b.reading r).read.record now (b.engine.reconfigure settings).1).engine =
        (b.read.record now (b.engine.reconfigure settings).1).engine := rfl
    simp only [hengine, hchannels]
    split
    · split
      · simp only [← hcycled]
        rfl
      · rfl
    · rw [← hcycled]
      rfl

theorem receive_reading {r : Reloads} {b : Broadcast τ} {a : Arrival}
    (h : r.first a.reads = b.reloads.first a.reads) :
    (b.reading r).receive a =
      ((b.receive a).1.reading (r.drop a.reads), (b.receive a).2) := by
  cases hline : a.line with
  | error fault =>
    have hreads : a.reads = 0 := by simp [Arrival.reads, Arrival.flow?, hline]
    rw [receive_error hline, receive_error hline, turnTo_reading, hreads]
    rfl
  | ok t =>
    have hflow := Arrival.flow?_eq hline (b.turnTo a.time).engine
    have hengine : ((b.turnTo a.time).reading r).engine = (b.turnTo a.time).engine := rfl
    rw [receive_ok hline, receive_ok hline, turnTo_reading, hengine]
    cases hf : ((b.turnTo a.time).engine.handleLine t).2 with
    | proceed | exit =>
      have hreads : a.reads = 0 := by rw [Arrival.reads, hflow, hf]
      rw [hreads]
      rfl
    | reload restart =>
      have hreads : a.reads = 1 := by rw [Arrival.reads, hflow, hf]
      rw [hreads] at h ⊢
      have hnext : r.next.1 = (b.turnTo a.time).reloads.next.1 := by
        rw [(b.reads_turnTo a.time).reloads]
        exact List.singleton_inj.1 h
      let handled := (b.turnTo a.time).record a.time
        ((b.turnTo a.time).engine.handleLine t).1
      exact reload_reading (b := handled) hnext a.time restart

def reads : List Arrival → Nat
  | [] => 0
  | a :: rest => a.reads + reads rest

theorem reads_through (b : Broadcast τ) (arrivals : List Arrival) :
    b.Reads (b.through arrivals) (reads arrivals) := by
  induction arrivals generalizing b with
  | nil => exact ⟨rfl, rfl, rfl⟩
  | cons a rest ih => exact (b.reads_receive a).trans (ih (b.receive a).1)

/-- Settings that are not read do not matter. -/
theorem through_reading {r : Reloads} {b : Broadcast τ} {arrivals : List Arrival}
    (h : r.first (reads arrivals) = b.reloads.first (reads arrivals)) :
    (b.reading r).through arrivals = (b.through arrivals).reading (r.drop (reads arrivals)) := by
  induction arrivals generalizing r b with
  | nil => rfl
  | cons a rest ih =>
    rw [reads, Reloads.first_add, Reloads.first_add] at h
    obtain ⟨hfirst, hrest⟩ := List.append_inj h (by simp only [Reloads.length_first])
    rw [← (b.reads_receive a).reloads] at hrest
    have hreceive : ((b.reading r).receive a).1 = (b.receive a).1.reading (r.drop a.reads) := by
      rw [receive_reading hfirst]
    change ((b.reading r).receive a).1.through rest = ((b.receive a).1.through rest).reading _
    rw [hreceive, ih hrest, reads, Reloads.drop_add]

theorem exists_reload_of_paced {b : Broadcast τ}
    (h : ∀ s, b.reloads.next.1 = .ok s → s.Paced) (now : Nat) (restart : Bool) :
    ∃ b', b.reload now restart = (b', none) := by
  cases hresult : b.reloads.next.1 with
  | error reason => exact ⟨_, reload_error hresult now restart⟩
  | ok settings =>
    obtain ⟨timers, htimers, _⟩ := exists_timers now (b.engine.rate_reconfigure settings)
      (h settings hresult)
    have hstarted : timers? now (b.read.record now
        (b.engine.reconfigure settings).1).engine.channels = some timers := htimers
    rw [reload_ok hresult now restart]
    simp only [hstarted]
    split
    · exact ⟨_, rfl⟩
    · exact ⟨_, rfl⟩

/-- A line that goes on does not end the run, if what it has read is paced. -/
theorem exists_receive_of_goesOn {b : Broadcast τ} {a : Arrival} (h : a.isLast = false)
    (hpaced : ∀ s, .ok s ∈ b.reloads.first a.reads → s.Paced) :
    ∃ b', b.receive a = (b', none) := by
  obtain ⟨hflow, _⟩ | ⟨t, flow, _, hflow, hreceive⟩ := b.receive_cases a
  · simp [Arrival.isLast, hflow] at h
  · rw [hreceive]
    cases flow with
    | proceed => exact ⟨_, rfl⟩
    | exit => simp [Arrival.isLast, hflow] at h
    | reload restart =>
      have hreads : a.reads = 1 := by rw [Arrival.reads, hflow]
      have hnext : ∀ s, (b.turnTo a.time).reloads.next.1 = .ok s → s.Paced := by
        intro s hs
        rw [(b.reads_turnTo a.time).reloads] at hs
        exact hpaced s (by rw [hreads]; exact List.mem_singleton.2 hs.symm)
      exact exists_reload_of_paced (b := (b.turnTo a.time).record a.time _) hnext a.time restart

/-- Lines that go on are handled one after the other, and the run goes on behind them. -/
theorem handle_through {b : Broadcast τ} {arrivals : List Arrival} (h : Arrival.GoOn arrivals)
    (hpaced : ∀ s, .ok s ∈ b.reloads.first (reads arrivals) → s.Paced) (close : Nat)
    (rest : List Arrival) :
    b.handle close (arrivals ++ rest) = (b.through arrivals).handle close rest := by
  induction arrivals generalizing b with
  | nil => rfl
  | cons a arrivals ih =>
    obtain ⟨⟨t, hline, hexit⟩, hgo⟩ := List.forall_mem_cons.1 h
    rw [reads, Reloads.first_add, ← (b.reads_receive a).reloads] at hpaced
    obtain ⟨b', hreceive⟩ := exists_receive_of_goesOn (Arrival.isLast_eq_false hline hexit)
      fun s hs => hpaced s (List.mem_append_left _ hs)
    rw [hreceive] at hpaced
    rw [List.cons_append, handle, hreceive, through, List.foldl_cons, hreceive]
    exact ih hgo fun s hs => hpaced s (List.mem_append_right _ hs)

theorem receive_exit {a : Arrival} (h : a.IsExit) (b : Broadcast τ) :
    b.receive a = ((b.turnTo a.time).record a.time
      (b.turnTo a.time).engine.stopTransmitter, some .exit) := by
  obtain ⟨t, hline, hc⟩ := h
  rw [receive_ok hline, Engine.handleLine_ok hc]
  rfl

/-- Ticks do nothing but show lines. -/
theorem exists_shown_turnTo (b : Broadcast τ) (time : Nat) :
    ∃ shown, (b.turnTo time).entries = b.entries ++ shown ∧
      ∀ x ∈ shown, ∃ s line answer, x.2 = .call (.show s line) answer := by
  refine turnTo_invariant (P := fun b' => ∃ shown, b'.entries = b.entries ++ shown ∧
    ∀ x ∈ shown, ∃ s line answer, x.2 = .call (.show s line) answer) ?_ (fun _ h => h)
    ⟨[], (List.append_nil _).symm, by simp⟩
  rintro b' s _ ⟨shown, hentries, hshown⟩
  have htick : (b'.tick s).entries =
      b'.entries ++ (b'.engine.tick s).2.map ((b'.timers.get s).next, ·) := b'.entries_record _ _
  refine ⟨_, by rw [htick, hentries, List.append_assoc], fun x hx => ?_⟩
  obtain hx | hx := List.mem_append.1 hx
  · exact hshown x hx
  · obtain ⟨entry, hentry, rfl⟩ := List.mem_map.1 hx
    cases hactive : b'.engine.isActive with
    | false =>
      rw [Engine.tick_of_inactive hactive] at hentry
      cases hentry
    | true =>
      obtain ⟨answer, t, _, htick⟩ := Engine.tick_of_active hactive s
      rw [htick] at hentry
      exact ⟨_, _, answer, List.mem_singleton.1 hentry⟩

/-- What an exit at a time makes of a broadcast: a transmitter on air is asked once to go off, and
nothing else is done. -/
structure Exited (b b' : Broadcast τ) (time : Nat) : Prop where
  off : b.engine.isActive = false → b'.entries = b.entries ∧ b'.engine = b.engine
  on : b.engine.isActive = true → ∃ answer,
    b'.entries = b.entries ++ [(time, .call .shutdown answer)] ∧
      (Transmitter.Switches τ → answer = .done → b'.engine.isActive = false)

theorem exited_record (b : Broadcast τ) (time : Nat) :
    b.Exited (b.record time b.engine.stopTransmitter) time := by
  obtain ⟨hoff, hstop⟩ | ⟨hon, answer, t, hperform, hstop⟩ := b.engine.stopTransmitter_cases
  · rw [hstop]
    refine ⟨fun _ => ⟨?_, rfl⟩, fun hon => ?_⟩
    · rw [entries_record]
      exact List.append_nil _
    · rw [hoff] at hon
      cases hon
  · rw [hstop]
    refine ⟨fun hoff => ?_, fun _ => ⟨answer, entries_record _ _ _, fun hswitches hdone => ?_⟩⟩
    · rw [hon] at hoff
      cases hoff
    · have hdown := hswitches.shutdown b.engine.transmitter
        ((congrArg Prod.fst hperform).trans hdone)
      rw [hperform] at hdown
      exact hdown

theorem handle_exit {b : Broadcast τ} {before : List Arrival} {a : Arrival}
    (h : Arrival.GoOn before) (hexit : a.IsExit)
    (hpaced : ∀ s, .ok s ∈ b.reloads.first (reads before) → s.Paced) (close : Nat)
    (after : List Arrival) :
    b.handle close (before ++ a :: after) =
      let c := (b.through before).turnTo a.time
      ⟨.exit, a.time, c.record a.time c.engine.stopTransmitter⟩ := by
  rw [handle_through h hpaced, handle, receive_exit hexit]

/-- After an exit the run is the same with other lines to come and other settings to be read. -/
theorem handle_exit_reading {b : Broadcast τ} {before : List Arrival} {a : Arrival}
    (h : Arrival.GoOn before) (hexit : a.IsExit)
    (hpaced : ∀ s, .ok s ∈ b.reloads.first (reads before) → s.Paced) {r : Reloads}
    (hread : r.first (reads before) = b.reloads.first (reads before)) (close close' : Nat)
    (after after' : List Arrival) :
    let o := b.handle close (before ++ a :: after)
    o.final.reloadCount = b.reloadCount + reads before ∧
      (b.reading r).handle close' (before ++ a :: after') =
        { o with final := o.final.reading (r.drop (reads before)) } := by
  have hpaced' : ∀ s, .ok s ∈ (b.reading r).reloads.first (reads before) → s.Paced := hread ▸ hpaced
  intro o
  have ho : o = ⟨.exit, a.time, ((b.through before).turnTo a.time).record a.time
      ((b.through before).turnTo a.time).engine.stopTransmitter⟩ :=
    handle_exit h hexit hpaced close after
  rw [ho, handle_exit h hexit hpaced', through_reading hread, turnTo_reading]
  refine ⟨?_, rfl⟩
  change ((b.through before).turnTo a.time).reloadCount = b.reloadCount + reads before
  rw [(reads_turnTo _ a.time).reloadCount, (b.reads_through before).reloadCount]
  rfl

/-- On any draws a run with paced settings ends with the first line that says EXIT or cannot be read,
at the time the line is complete, and otherwise with its input, a last line without a line feed
handled as well. An exit asks a transmitter on air to go off and does nothing else; the end of the
input does not even do that. After an exit the run does not depend on the lines to come, on when the
input ends, or on settings that were not read: with others instead it is the same run, but for the
settings left to be read. The lines to come are whatever stands behind the line feed of the line
that says EXIT. -/
theorem run_ends (settings : Settings) (t : τ) (reloads : Reloads) (chunks : List Chunk)
    (close : Nat) (draws : Draws) (hsettings : settings.Paced) (hreloads : reloads.Paced) :
    let start := Engine.ofSettings settings t
    let arrivals := Feed.arrivals chunks close
    ∃ b o, start? start reloads draws = some b ∧ run start reloads arrivals close draws = some o ∧
      (∀ before a after, arrivals = before ++ a :: after → Arrival.GoOn before → a.IsExit →
        o.ending = .exit ∧ o.time = a.time ∧
          ((b.through before).turnTo a.time).Exited o.final a.time ∧
          ∀ after' close' reloads',
            reloads'.first o.final.reloadCount = reloads.first o.final.reloadCount →
            run start reloads' (before ++ a :: after') close' draws =
              some { o with final := o.final.reading (reloads'.drop o.final.reloadCount) }) ∧
      (∀ done time bytes rest later before a,
        chunks = done ++ ⟨time, bytes ++ Feed.lineFeed :: rest⟩ :: later →
        Feed.arrivals (done ++ [⟨time, bytes ++ [Feed.lineFeed]⟩]) time = before ++ [a] →
        Arrival.GoOn before → a.IsExit →
        ∀ rest' later' close' reloads',
          reloads'.first o.final.reloadCount = reloads.first o.final.reloadCount →
          run start reloads' (Feed.arrivals
              (done ++ ⟨time, bytes ++ Feed.lineFeed :: rest'⟩ :: later') close') close' draws =
            some { o with final := o.final.reading (reloads'.drop o.final.reloadCount) }) ∧
      (∀ before a after fault, arrivals = before ++ a :: after → Arrival.GoOn before →
        a.line = .error fault → o.ending = .unreadable fault ∧ o.time = a.time ∧
          o.final = (b.through before).turnTo a.time) ∧
      (Arrival.GoOn arrivals → o.ending = .inputClosed ∧ o.time = close ∧
        ∃ shown, o.final.entries = (b.through arrivals).entries ++ shown ∧
          ∀ x ∈ shown, ∃ s line answer, x.2 = .call (.show s line) answer) := by
  intro start arrivals
  obtain ⟨timers, hstart⟩ := exists_start_timers settings hsettings t
  let b : Broadcast τ := record ⟨start.1, timers, reloads, 0, draws, []⟩ 0 start
  let o := b.handle close arrivals
  have hrun (r : Reloads) (lines : List Arrival) (close : Nat) :
      run start r lines close draws = some ((b.reading r).handle close lines) := by
    rw [run, hstart]
    rfl
  have hpaced (n : Nat) : ∀ s, .ok s ∈ b.reloads.first n → s.Paced := fun s hs => hreloads.first hs
  have hothers : ∀ before a after, arrivals = before ++ a :: after → Arrival.GoOn before →
      a.IsExit → ∀ after' close' (reloads' : Reloads),
        reloads'.first o.final.reloadCount = reloads.first o.final.reloadCount →
        run start reloads' (before ++ a :: after') close' draws =
          some { o with final := o.final.reading (reloads'.drop o.final.reloadCount) } := by
    intro before a after heq hgo hexit after' close' reloads' hread
    have hcount : o.final.reloadCount = reads before := by
      have hcounted := (handle_exit_reading hgo hexit (hpaced _) rfl close close after []).1
      rw [← heq] at hcounted
      exact hcounted.trans (Nat.zero_add _)
    rw [hcount] at hread ⊢
    rw [hrun, (handle_exit_reading hgo hexit (hpaced _) hread close close' after after').2, ← heq]
  refine ⟨b, o, hstart reloads draws, hrun reloads arrivals close, ?_, ?_, ?_, ?_⟩
  · intro before a after heq hgo hexit
    have hend := handle_exit hgo hexit (hpaced _) close after
    rw [← heq] at hend
    have hfinal : o.final = _ := congrArg Outcome.final hend
    refine ⟨congrArg Outcome.ending hend, congrArg Outcome.time hend, ?_,
      hothers before a after heq hgo hexit⟩
    rw [hfinal]
    exact exited_record _ _
  · rintro done time bytes rest later before a rfl heard hgo hexit
    intro rest' later' close' reloads' hread
    have hlines (rest later close) : Feed.arrivals
        (done ++ ⟨time, bytes ++ Feed.lineFeed :: rest⟩ :: later) close =
          before ++ a :: Feed.arrivalsFrom [] (⟨time, rest⟩ :: later) close := by
      rw [Feed.arrivals_parted, heard, List.append_assoc]
      rfl
    rw [hlines]
    exact hothers before a _ (hlines rest later close) hgo hexit _ close' reloads' hread
  · intro before a after fault heq hgo hline
    have hend : o = ⟨.unreadable fault, a.time, (b.through before).turnTo a.time⟩ := by
      simp only [o, heq]
      rw [handle_through hgo (hpaced _), handle, receive_error hline]
    rw [hend]
    exact ⟨rfl, rfl, rfl⟩
  · intro hgo
    have hend : o = ⟨.inputClosed, close, (b.through arrivals).turnTo close⟩ := by
      have hall := handle_through hgo (hpaced _) close []
      rwa [List.append_nil] at hall
    rw [hend]
    exact ⟨rfl, rfl, exists_shown_turnTo _ close⟩

/-- The line comes in two pieces; behind it stands another reload, or a line that cannot be read and
settings without any pace. -/
theorem run_ends_exit :
    let settings (ps : Nat) : Settings :=
      ⟨true, ⟨⟨"a|b".toList, ps, []⟩, ⟨"c".toList, 2, []⟩⟩, 64, .fppdStart, .never⟩
    let start := Engine.ofSettings (settings 2) (⟨{}, fun n => n == 1⟩ : Flaky Recorder)
    let reloads : Reloads := ⟨[.ok (settings 1), .error []], .error []⟩
    let others : Reloads := ⟨[.ok (settings 1)], .ok (settings 0)⟩
    let draws : Draws := fun n => if n % 2 = 0 then .input else .tick .rt
    let done : List Chunk := [⟨500, Utf8.encode "INIT\nUPDATE\n".toList⟩,
      ⟨700, Utf8.encode "INIT\nEX".toList⟩]
    let chunks := done ++ [⟨1700, Utf8.encode "IT\r\nRESET\n".toList⟩]
    let chunks' := done ++ [⟨1700, Utf8.encode "IT\r\n".toList ++ [0xFF]⟩, ⟨1800, [0xFF]⟩]
    (settings 2).Paced ∧ reloads.Paced ∧
      ∃ o o', run start reloads (Feed.arrivals chunks 4000) 4000 draws = some o ∧
        run start others (Feed.arrivals chunks' 9000) 9000 draws = some o' ∧
        o.ending = .exit ∧ o.time = 1700 ∧ o.final.reloadCount = 1 ∧
        o.final.entries = [(0, .call (.rtSize 64) .done), (500, .call .startup .inactive),
          (500, .call (.rtSize 64) .done), (700, .call .startup .done),
          (1500, .call (.show .ps ['a']) .done), (1700, .call .shutdown .done)] ∧
        o' = { o with final := o.final.reading (others.drop 1) } := by
  intro settings start reloads others draws done chunks chunks'
  have hpaced : ∀ ps, 0 < ps → (settings ps).Paced := by
    rintro ps hps (_ | _)
    · exact hps
    · exact Nat.two_pos
  have hreloads : reloads.Paced := by
    rintro s (hs | hs)
    · obtain rfl : s = settings 1 := by simpa [reloads] using hs
      exact hpaced 1 Nat.one_pos
    · cases hs
  obtain ⟨b, o, _, hrun, hexit, hbehind, _, _⟩ := run_ends (settings 2)
    (⟨{}, fun n => n == 1⟩ : Flaky Recorder) reloads chunks 4000 draws (hpaced 2 Nat.two_pos) hreloads
  let before : List Arrival := [(500, "INIT\n"), (500, "UPDATE\n"), (700, "INIT\n")].map
    fun x => ⟨x.1, Utf8.encode x.2.toList⟩
  let a : Arrival := ⟨1700, Utf8.encode "EXIT\r\n".toList⟩
  have hgo : Arrival.GoOn before := by
    have hbytes : (Utf8.decode (Utf8.encode "INIT\n".toList)).map Text.dropLineBreak =
        .ok "INIT".toList := by decide +kernel
    have hinit (time : Nat) : ∃ t, Arrival.line ⟨time, Utf8.encode "INIT\n".toList⟩ = .ok t ∧
        Command.read t ≠ .ok .exit := ⟨"INIT".toList, hbytes, by decide +kernel⟩
    have hupdate : ∃ t, Arrival.line ⟨500, Utf8.encode "UPDATE\n".toList⟩ = .ok t ∧
        Command.read t ≠ .ok .exit := ⟨"UPDATE".toList, by decide +kernel, by decide +kernel⟩
    simp only [Arrival.GoOn, before, List.map_cons, List.map_nil, List.forall_mem_cons]
    exact ⟨hinit 500, hupdate, hinit 700, by simp⟩
  have ha : a.IsExit := ⟨"EXIT".toList, by decide +kernel, by decide +kernel⟩
  have hlines : Feed.arrivals chunks 4000 =
      before ++ a :: [⟨1700, Utf8.encode "RESET\n".toList⟩] := by
    decide +kernel
  obtain ⟨hending, htime, _, _⟩ := hexit before a _ hlines hgo ha
  have hshown : (run start reloads (Feed.arrivals chunks 4000) 4000 draws).map (fun o =>
      (o.final.reloadCount, o.final.entries)) = some (1,
        [(0, .call (.rtSize 64) .done), (500, .call .startup .inactive),
          (500, .call (.rtSize 64) .done), (700, .call .startup .done),
          (1500, .call (.show .ps ['a']) .done), (1700, .call .shutdown .done)]) := by
    dsimp only [start, reloads, chunks, done, settings, draws]
    decide +kernel
  rw [hrun, Option.map_some, Option.some.injEq, Prod.mk.injEq] at hshown
  obtain ⟨hcount, hentries⟩ := hshown
  have hrest := hbehind done 1700 (Utf8.encode "IT\r".toList) (Utf8.encode "RESET\n".toList) []
    before a rfl (by decide +kernel) hgo ha [0xFF] [⟨1800, [0xFF]⟩] 9000 others
  rw [hcount] at hrest
  exact ⟨hpaced 2 Nat.two_pos, hreloads, o, _, hrun, hrest (by decide +kernel), hending, htime,
    hcount, hentries, rfl⟩

end Broadcast
end RadioText
