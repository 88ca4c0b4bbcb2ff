import RadioText.Proofs.Engine.Receiving

/-! Input taken as it comes. While a line is being read the timers go on ticking, and the bytes read
so far are kept; so what an input does depends on its bytes and on when its line feeds come, and
not on how it is cut into chunks. -/
namespace RadioText

namespace Feed

def lastLine (close : Nat) (current : Bytes) : List Arrival :=
  if current.isEmpty then [] else [⟨close, current.reverse⟩]

def arrivalsFrom (current : Bytes) (chunks : List Chunk) (close : Nat) : List Arrival :=
  let s := chunks.foldl Scan.chunk ⟨[], current⟩
  s.lines.reverse ++ lastLine close s.current

def lineFeedTimes (chunks : List Chunk) : List Nat :=
  chunks.flatMap fun c => List.replicate (c.bytes.count lineFeed) c.time

def stamped (close : Nat) (current : Bytes) : Bytes → List Nat → List Arrival
  | [], _ => lastLine close current
  | b :: bytes, times =>
    if b = lineFeed then
      ⟨times.headD close, (b :: current).reverse⟩ :: stamped close [] bytes times.tail
    else stamped close (b :: current) bytes times

/-- Reading an input byte by byte, with the bytes of the line being read at hand. -/
theorem induction {motive : Bytes → List Chunk → Prop} (nil : ∀ current, motive current [])
    (next : ∀ current time chunks, motive current chunks →
      motive current (⟨time, []⟩ :: chunks))
    (line : ∀ current time bytes chunks, motive [] (⟨time, bytes⟩ :: chunks) →
      motive current (⟨time, lineFeed :: bytes⟩ :: chunks))
    (byte : ∀ current time b bytes chunks, b ≠ lineFeed →
      motive (b :: current) (⟨time, bytes⟩ :: chunks) →
      motive current (⟨time, b :: bytes⟩ :: chunks))
    (current : Bytes) (chunks : List Chunk) : motive current chunks := by
  induction chunks generalizing current with
  | nil => exact nil current
  | cons c chunks ih =>
    obtain ⟨time, bytes⟩ := c
    induction bytes generalizing current with
    | nil => exact next current time chunks (ih current)
    | cons b bytes ihBytes =>
      by_cases hb : b = lineFeed
      · subst hb
        exact line current time bytes chunks (ihBytes [])
      · exact byte current time b bytes chunks hb (ihBytes (b :: current))

def Scan.behind (done : List Arrival) (s : Scan) : Scan := { s with lines := s.lines ++ done }

theorem Scan.byte_behind (done : List Arrival) (time : Nat) (s : Scan) (b : UInt8) :
    (s.behind done).byte time b = (s.byte time b).behind done := by
  unfold byte
  simp only
  split <;> rfl

theorem Scan.bytes_behind (done : List Arrival) (time : Nat) (s : Scan) (bytes : Bytes) :
    bytes.foldl (byte time) (s.behind done) = (bytes.foldl (byte time) s).behind done := by
  induction bytes generalizing s with
  | nil => rfl
  | cons b bytes ih => rw [List.foldl_cons, List.foldl_cons, byte_behind, ih]

theorem Scan.chunks_behind (done : List Arrival) (s : Scan) (chunks : List Chunk) :
    chunks.foldl chunk (s.behind done) = (chunks.foldl chunk s).behind done := by
  induction chunks generalizing s with
  | nil => rfl
  | cons c chunks ih => rw [List.foldl_cons, List.foldl_cons, chunk, chunk, bytes_behind, ih]

theorem arrivals_eq (chunks : List Chunk) (close : Nat) :
    arrivals chunks close = arrivalsFrom [] chunks close := by
  unfold arrivals arrivalsFrom lastLine
  simp only
  split
  · rw [List.append_nil]
  · rw [List.reverse_cons]

theorem arrivalsFrom_byte (current : Bytes) (time : Nat) {b : UInt8} (h : b ≠ lineFeed)
    (bytes : Bytes) (chunks : List Chunk) (close : Nat) :
    arrivalsFrom current (⟨time, b :: bytes⟩ :: chunks) close =
      arrivalsFrom (b :: current) (⟨time, bytes⟩ :: chunks) close := by
  have hbyte : Scan.byte time ⟨[], current⟩ b = ⟨[], b :: current⟩ := if_neg h
  simp only [arrivalsFrom, List.foldl_cons, Scan.chunk, hbyte]

theorem arrivalsFrom_line (current : Bytes) (time : Nat) (bytes : Bytes) (chunks : List Chunk)
    (close : Nat) :
    arrivalsFrom current (⟨time, lineFeed :: bytes⟩ :: chunks) close =
      ⟨time, (lineFeed :: current).reverse⟩ ::
        arrivalsFrom [] (⟨time, bytes⟩ :: chunks) close := by
  have hbyte : Scan.byte time ⟨[], current⟩ lineFeed =
      Scan.behind [⟨time, (lineFeed :: current).reverse⟩] ⟨[], []⟩ := by
    rw [Scan.byte, if_pos rfl]
    rfl
  simp only [arrivalsFrom, List.foldl_cons, Scan.chunk, hbyte, Scan.bytes_behind,
    Scan.chunks_behind]
  simp [Scan.behind]

theorem lineFeedTimes_byte (time : Nat) {b : UInt8} (h : b ≠ lineFeed) (bytes : Bytes)
    (chunks : List Chunk) :
    lineFeedTimes (⟨time, b :: bytes⟩ :: chunks) = lineFeedTimes (⟨time, bytes⟩ :: chunks) := by
  simp only [lineFeedTimes, List.flatMap_cons, List.count_cons_of_ne h]

theorem lineFeedTimes_line (time : Nat) (bytes : Bytes) (chunks : List Chunk) :
    lineFeedTimes (⟨time, lineFeed :: bytes⟩ :: chunks) =
      time :: lineFeedTimes (⟨time, bytes⟩ :: chunks) := by
  simp only [lineFeedTimes, List.flatMap_cons, List.count_cons_self, List.replicate_succ,
    List.cons_append]

/-- The lines of an input are given by its bytes and the times of its line feeds. -/
theorem arrivalsFrom_eq_stamped (current : Bytes) (chunks : List Chunk) (close : Nat) :
    arrivalsFrom current chunks close =
      stamped close current (chunks.flatMap Chunk.bytes) (lineFeedTimes chunks) := by
  induction current, chunks using Feed.induction with
  | nil current => rfl
  | next current time chunks ih => exact ih
  | line current time bytes chunks ih =>
    rw [arrivalsFrom_line, lineFeedTimes_line, List.flatMap_cons, List.cons_append, stamped,
      if_pos rfl, ih]
    rfl
  | byte current time b bytes chunks hb ih =>
    rw [arrivalsFrom_byte current time hb, lineFeedTimes_byte time hb, List.flatMap_cons,
      List.cons_append, stamped, if_neg hb, ih]
    rfl

/-- A line is complete when one of the chunks comes, or at the end. -/
theorem time_mem_of_mem_arrivalsFrom {current : Bytes} {chunks : List Chunk} {close : Nat}
    {a : Arrival} (h : a ∈ arrivalsFrom current chunks close) :
    a.time ∈ chunks.map Chunk.time ++ [close] := by
  induction current, chunks using Feed.induction with
  | nil current =>
    change a ∈ lastLine close current at h
    unfold lastLine at h
    split at h
    · cases h
    · rw [List.mem_singleton.1 h]
      exact List.mem_singleton_self close
  | next current time chunks ih => exact List.mem_cons_of_mem _ (ih h)
  | line current time bytes chunks ih =>
    rw [arrivalsFrom_line] at h
    obtain rfl | h := List.mem_cons.1 h
    · exact List.mem_cons_self
    · exact ih h
  | byte current time b bytes chunks hb ih =>
    rw [arrivalsFrom_byte current time hb] at h
    exact ih h

end Feed

variable {τ : Type} [Transmitter τ]

namespace Broadcast

theorem receive_runTimers (b : Broadcast τ) {now : Nat} {a : Arrival} (h : now ≤ a.time) :
    (b.runTimers now).receive a = b.receive a := by
  rw [receive, turnTo_runTimers b h]
  rfl

theorem handle_runTimers (b : Broadcast τ) {now close : Nat} {arrivals : List Arrival}
    (h : ∀ time ∈ arrivals.map Arrival.time ++ [close], now ≤ time) :
    (b.runTimers now).handle close arrivals = b.handle close arrivals := by
  cases arrivals with
  | nil => rw [handle, handle, turnTo_runTimers b (h close (by simp))]
  | cons a rest => rw [handle, handle, receive_runTimers b (h a.time (by simp))]

/-- Take bytes that are there at one time, in the middle of a line. A line feed completes the line,
and it is handled before the next byte is read; other bytes are kept. -/
def hear (time : Nat) (b : Broadcast τ) (current : Bytes) :
    Bytes → Broadcast τ × Bytes × Option Ending
  | [] => (b, current, none)
  | byte :: bytes =>
    if byte = Feed.lineFeed then
      match b.receive ⟨time, (byte :: current).reverse⟩ with
      | (b, none) => hear time b [] bytes
      | (b, some ending) => (b, [], some ending)
    else hear time b (byte :: current) bytes

/-- Take an input chunk by chunk. Until a chunk is there the timers tick; the bytes of a line that
is not complete are kept meanwhile. -/
def listen (close : Nat) (b : Broadcast τ) (current : Bytes) : List Chunk → Outcome τ
  | [] => b.handle close (Feed.lastLine close current)
  | c :: chunks =>
    match (b.runTimers c.time).hear c.time current c.bytes with
    | (b, current, none) => listen close b current chunks
    | (b, _, some ending) => ⟨ending, c.time, b⟩

def runLive (s : Step τ) (reloads : Reloads) (chunks : List Chunk) (close : Nat)
    (draws : Draws) : Option (Outcome τ) :=
  (start? s reloads draws).map fun b => b.listen close [] chunks

/-- To hear the bytes of a chunk and listen on is to handle the lines from there. -/
theorem hear_eq_handle {close : Nat} {chunks : List Chunk}
    (hlisten : ∀ (b : Broadcast τ) current,
      b.listen close current chunks = b.handle close (Feed.arrivalsFrom current chunks close))
    (time : Nat) (bytes : Bytes) (b : Broadcast τ) (current : Bytes) :
    (match b.hear time current bytes with
      | (b, current, none) => listen close b current chunks
      | (b, _, some ending) => ⟨ending, time, b⟩) =
      b.handle close (Feed.arrivalsFrom current (⟨time, bytes⟩ :: chunks) close) := by
  induction bytes generalizing b current with
  | nil => exact hlisten b current
  | cons byte bytes ih =>
    rw [hear]
    by_cases hbyte : byte = Feed.lineFeed
    · subst hbyte
      rw [if_pos rfl, Feed.arrivalsFrom_line, handle]
      cases b.receive ⟨time, (Feed.lineFeed :: current).reverse⟩ with
      | mk b' ending =>
        cases ending with
        | none => exact ih b' []
        | some ending => rfl
    · rw [if_neg hbyte, Feed.arrivalsFrom_byte current time hbyte]
      exact ih b (byte :: current)

/-- Taking an input as it comes is handling its lines when they are complete. -/
theorem listen_eq_handle {close : Nat} {current : Bytes} {chunks : List Chunk}
    (h : (chunks.map Chunk.time ++ [close]).Pairwise (· ≤ ·)) (b : Broadcast τ) :
    b.listen close current chunks =
      b.handle close (Feed.arrivalsFrom current chunks close) := by
  induction chunks generalizing b current with
  | nil => rfl
  | cons c chunks ih =>
    obtain ⟨htime, hrest⟩ := List.pairwise_cons.1 h
    have hlater : ∀ t ∈ (Feed.arrivalsFrom current (c :: chunks) close).map Arrival.time ++ [close],
        c.time ≤ t := by
      intro t ht
      obtain ht | ht := List.mem_append.1 ht
      · obtain ⟨a, ha, rfl⟩ := List.mem_map.1 ht
        obtain heq | hmem := List.mem_cons.1 (Feed.time_mem_of_mem_arrivalsFrom ha)
        · exact Nat.le_of_eq heq.symm
        · exact htime _ hmem
      · exact htime t (List.mem_append_right _ ht)
    rw [listen, hear_eq_handle (fun b current => ih hrest b) c.time c.bytes,
      handle_runTimers b hlater]

theorem runLive_eq_run {chunks : List Chunk} {close : Nat}
    (h : (chunks.map Chunk.time ++ [close]).Pairwise (· ≤ ·)) (s : Step τ) (reloads : Reloads)
    (draws : Draws) :
    runLive s reloads chunks close draws =
      run s reloads (Feed.arrivals chunks close) close draws := by
  simp only [runLive, run, listen_eq_handle h, Feed.arrivals_eq]

/-- Two inputs with the same bytes, the same times of their line feeds and the same end give the
same run on the same draws, wherever they are cut: it has the same ending at the same time, after
the same calls at the same times, and leaves the same state. It is the run on their complete
lines. -/
theorem runLive_congr (s : Step τ) (reloads : Reloads) (draws : Draws)
    {chunks chunks' : List Chunk} {close : Nat}
    (h : (chunks.map Chunk.time ++ [close]).Pairwise (· ≤ ·))
    (h' : (chunks'.map Chunk.time ++ [close]).Pairwise (· ≤ ·))
    (hbytes : chunks.flatMap Chunk.bytes = chunks'.flatMap Chunk.bytes)
    (htimes : Feed.lineFeedTimes chunks = Feed.lineFeedTimes chunks') :
    runLive s reloads chunks close draws = runLive s reloads chunks' close draws ∧
      runLive s reloads chunks close draws =
        run s reloads (Feed.arrivals chunks close) close draws := by
  have hlines : Feed.arrivals chunks close = Feed.arrivals chunks' close := by
    simp only [Feed.arrivals_eq, Feed.arrivalsFrom_eq_stamped, hbytes, htimes]
  rw [runLive_eq_run h, runLive_eq_run h', hlines]
  exact ⟨rfl, rfl⟩

/-- A line break and a letter of two bytes are torn apart, and both services tick in between; so is
the last line, which never gets a line feed. -/
theorem runLive_congr_torn :
    let settings : Settings :=
      ⟨true, ⟨⟨"\x7bT\x7d".toList, 1, []⟩, ⟨"\x7bB\x7d".toList, 2, []⟩⟩, 64, .fppdStart, .never⟩
    let start := Engine.ofSettings settings ({} : Recorder)
    let reloads : Reloads := ⟨[], .error []⟩
    let draws : Draws := fun n => if n % 3 = 0 then .input else .tick .rt
    let whole : List Chunk := [⟨500, Utf8.encode "INIT\r\n".toList⟩,
      ⟨2500, Utf8.encode "Té\nL5\nB9".toList⟩]
    let torn : List Chunk := [⟨100, Utf8.encode "INIT\r".toList⟩,
      ⟨500, Utf8.encode "\nT".toList ++ [0xC3]⟩, ⟨2500, 0xA9 :: Utf8.encode "\nL5\nB".toList⟩,
      ⟨3500, Utf8.encode "9".toList⟩]
    (whole.map Chunk.time ++ [4500]).Pairwise (· ≤ ·) ∧
      (torn.map Chunk.time ++ [4500]).Pairwise (· ≤ ·) ∧
      whole.flatMap Chunk.bytes = torn.flatMap Chunk.bytes ∧
      Feed.lineFeedTimes whole = Feed.lineFeedTimes torn ∧
      runLive start reloads whole 4500 draws = runLive start reloads torn 4500 draws ∧
      (runLive start reloads torn 4500 draws).map (fun o => (o.ending,
        showTimes .ps o.final.entries, o.final.engine.metadata.title)) =
        some (.inputClosed, [1000, 2000, 3000, 4000], some "é".toList) := by
  intro settings start reloads draws whole torn
  have hwhole : (whole.map Chunk.time ++ [4500]).Pairwise (· ≤ ·) := by simp [whole]
  have htorn : (torn.map Chunk.time ++ [4500]).Pairwise (· ≤ ·) := by simp [torn]
  have hbytes : whole.flatMap Chunk.bytes = torn.flatMap Chunk.bytes := by decide +kernel
  have htimes : Feed.lineFeedTimes whole = Feed.lineFeedTimes torn := by decide +kernel
  obtain ⟨hsame, hrun⟩ := runLive_congr start reloads draws hwhole htorn hbytes htimes
  refine ⟨hwhole, htorn, hbytes, htimes, hsame, ?_⟩
  rw [← hsame, hrun]
  dsimp only [start, reloads, draws, whole, settings]
  decide +kernel

end Broadcast
end RadioText
