import RadioText.Engine
import RadioText.Engine.Feed
import RadioText.Proofs.Event
import RadioText.Proofs.Text.Utf8

/-! Lines that arrive in pieces. Where the bytes are cut into chunks does not show in the lines, and
the lines of events come back one by one. -/
namespace RadioText

namespace Text

theorem dropReturn_of_unbroken {t : Text} (h : t.Unbroken) : t.dropReturn = t := by
  have hnone : before? ['\r'] t = none := by
    rw [before?, Option.map_eq_none_iff]
    change after? ['\r'] t.reverse = none
    cases hr : t.reverse with
    | nil => rfl
    | cons c r =>
      have hc : c ∈ t := List.mem_reverse.1 (hr ▸ List.mem_cons_self)
      have hne : '\r' ≠ c := by
        rintro rfl
        cases h _ hc
      exact if_neg hne
  rw [dropReturn, hnone, Option.getD_none]

theorem dropLineBreak_append {t : Text} (h : t.Unbroken) : dropLineBreak (t ++ ['\n']) = t := by
  rw [dropLineBreak, before?_append]
  exact dropReturn_of_unbroken h

theorem Unbroken.lineFeed_not_mem {t : Text} (h : t.Unbroken) : '\n' ∉ t := fun hmem =>
  Bool.noConfusion (h _ hmem)

end Text

namespace Feed

def Scan.content (s : Scan) : List Bytes × Bytes := (s.lines.map Arrival.bytes, s.current)

theorem Scan.content_byte {s s' : Scan} (h : s.content = s'.content) (time time' : Nat)
    (b : UInt8) : (s.byte time b).content = (s'.byte time' b).content := by
  obtain ⟨hlines, hcurrent⟩ := Prod.mk.inj h
  unfold byte
  by_cases hb : b = lineFeed <;> simp [hb, content, hlines, hcurrent]

theorem Scan.content_bytes {s s' : Scan} (h : s.content = s'.content) (time time' : Nat)
    (bytes : Bytes) :
    (bytes.foldl (byte time) s).content = (bytes.foldl (byte time') s').content := by
  induction bytes generalizing s s' with
  | nil => exact h
  | cons b bytes ih => exact ih (content_byte h time time' b)

/-- Chunks are read as their bytes are all at once. -/
theorem Scan.content_chunks {s s' : Scan} (h : s.content = s'.content) (chunks : List Chunk)
    (time : Nat) : (chunks.foldl chunk s).content =
      ((chunks.flatMap Chunk.bytes).foldl (byte time) s').content := by
  induction chunks generalizing s s' with
  | nil => exact h
  | cons c chunks ih =>
    rw [List.flatMap_cons, List.foldl_append]
    exact ih (content_bytes h c.time time c.bytes)

theorem Scan.bytes_of_ne (time : Nat) (s : Scan) {bytes : Bytes} (h : ∀ b ∈ bytes, b ≠ lineFeed) :
    bytes.foldl (byte time) s = { s with current := bytes.reverse ++ s.current } := by
  induction bytes generalizing s with
  | nil => rfl
  | cons b bytes ih =>
    obtain ⟨hb, hrest⟩ := List.forall_mem_cons.1 h
    rw [List.foldl_cons, ih _ hrest, byte, if_neg hb]
    simp

theorem Scan.bytes_lines (time : Nat) (done : List Arrival) {lines : List Bytes}
    (h : ∀ line ∈ lines, ∀ b ∈ line, b ≠ lineFeed) :
    (lines.flatMap (· ++ [lineFeed])).foldl (byte time) ⟨done, []⟩ =
      ⟨(lines.map fun line => ⟨time, line ++ [lineFeed]⟩).reverse ++ done, []⟩ := by
  induction lines generalizing done with
  | nil => rfl
  | cons line lines ih =>
    obtain ⟨hline, hrest⟩ := List.forall_mem_cons.1 h
    -- The line piles up behind nothing, and its line feed puts it with those done.
    rw [List.flatMap_cons, List.foldl_append, List.foldl_append, bytes_of_ne time _ hline]
    have hend : [lineFeed].foldl (byte time) ⟨done, line.reverse ++ []⟩ =
        ⟨⟨time, line ++ [lineFeed]⟩ :: done, []⟩ := by simp [byte]
    rw [hend, ih _ hrest]
    simp

theorem bytes_arrivals {chunks : List Chunk} {lines : List Bytes}
    (h : ∀ line ∈ lines, ∀ b ∈ line, b ≠ lineFeed)
    (hbytes : chunks.flatMap Chunk.bytes = lines.flatMap (· ++ [lineFeed])) (close : Nat) :
    (arrivals chunks close).map Arrival.bytes = lines.map (· ++ [lineFeed]) := by
  have hcontent : (chunks.foldl Scan.chunk {}).content =
      ((chunks.flatMap Chunk.bytes).foldl (Scan.byte 0) {}).content :=
    Scan.content_chunks rfl chunks 0
  rw [hbytes, Scan.bytes_lines 0 [] h] at hcontent
  obtain ⟨hlines, hcurrent⟩ := Prod.mk.inj hcontent
  simp only [arrivals, hcurrent, List.isEmpty_nil, if_true]
  rw [List.map_reverse, hlines]
  simp [List.map_reverse, Function.comp_def]

theorem encode_lines (lines : List Text) :
    Utf8.encode (lines.flatMap (· ++ ['\n'])) =
      (lines.map Utf8.encode).flatMap (· ++ [lineFeed]) := by
  induction lines with
  | nil => rfl
  | cons line lines ih =>
    rw [List.flatMap_cons, Utf8.encode_append, Utf8.encode_append, ih, List.map_cons,
      List.flatMap_cons]
    rfl

/-- Lines written out come back, however their bytes are cut into chunks. -/
theorem lines_arrivals {chunks : List Chunk} {lines : List Text} (h : ∀ t ∈ lines, t.Unbroken)
    (hbytes : chunks.flatMap Chunk.bytes = Utf8.encode (lines.flatMap (· ++ ['\n'])))
    (close : Nat) : (arrivals chunks close).map Arrival.line = lines.map .ok := by
  have hclean : ∀ line ∈ lines.map Utf8.encode, ∀ b ∈ line, b ≠ lineFeed := by
    intro line hline
    obtain ⟨t, ht, rfl⟩ := List.mem_map.1 hline
    exact Utf8.ne_lineFeed_of_mem_encode (h t ht).lineFeed_not_mem
  have hdecode : ∀ t ∈ lines, (Utf8.decode (Utf8.encode t ++ [lineFeed])).map Text.dropLineBreak =
      .ok t := by
    intro t ht
    have hline : Utf8.encode t ++ [lineFeed] = Utf8.encode (t ++ ['\n']) :=
      (Utf8.encode_append t ['\n']).symm
    rw [hline, Utf8.decode_encode, Except.map, Text.dropLineBreak_append (h t ht)]
  rw [encode_lines] at hbytes
  calc (arrivals chunks close).map Arrival.line
      = ((arrivals chunks close).map Arrival.bytes).map
          fun bytes => (Utf8.decode bytes).map Text.dropLineBreak := by
        rw [List.map_map]
        rfl
    _ = lines.map .ok := by
        rw [bytes_arrivals hclean hbytes, List.map_map, List.map_map]
        exact List.map_congr_left hdecode

def Scan.Ordered (s : Scan) (now : Nat) : Prop :=
  (now :: s.lines.map Arrival.time).Pairwise (· ≥ ·)

theorem Scan.Ordered.mono {s : Scan} {now time : Nat} (h : s.Ordered now) (hle : now ≤ time) :
    s.Ordered time := by
  obtain ⟨hnow, hlines⟩ := List.pairwise_cons.1 h
  exact List.pairwise_cons.2 ⟨fun t ht => Nat.le_trans (hnow t ht) hle, hlines⟩

theorem Scan.Ordered.line {s : Scan} {now : Nat} (h : s.Ordered now) (bytes current : Bytes) :
    Ordered ⟨⟨now, bytes⟩ :: s.lines, current⟩ now := by
  refine List.pairwise_cons.2 ⟨fun t ht => ?_, h⟩
  obtain rfl | ht := List.mem_cons.1 ht
  · exact Nat.le_refl _
  · exact (List.pairwise_cons.1 h).1 t ht

theorem Scan.Ordered.bytes {s : Scan} {time : Nat} (h : s.Ordered time) (bytes : Bytes) :
    (bytes.foldl (byte time) s).Ordered time := by
  induction bytes generalizing s with
  | nil => exact h
  | cons b bytes ih =>
    refine ih ?_
    unfold byte
    simp only
    split
    · exact h.line _ _
    · exact h

theorem Scan.Ordered.chunks {s : Scan} {now close : Nat} {chunks : List Chunk} (h : s.Ordered now)
    (hchunks : (now :: (chunks.map Chunk.time ++ [close])).Pairwise (· ≤ ·)) :
    (chunks.foldl chunk s).Ordered close := by
  induction chunks generalizing now s with
  | nil => exact h.mono (by simpa using hchunks)
  | cons c chunks ih =>
    obtain ⟨hnow, hrest⟩ := List.pairwise_cons.1 hchunks
    exact ih ((h.mono (hnow c.time (by simp))).bytes c.bytes) hrest

/-- Lines of chunks that come in order are complete in order, the last of them at the end. -/
theorem ordered_arrivals {chunks : List Chunk} {close : Nat}
    (h : (chunks.map Chunk.time ++ [close]).Pairwise (· ≤ ·)) :
    ((arrivals chunks close).map Arrival.time ++ [close]).Pairwise (· ≤ ·) := by
  have hstart : Scan.Ordered {} 0 := by simp [Scan.Ordered]
  have hscan : (chunks.foldl Scan.chunk {}).Ordered close :=
    hstart.chunks (List.pairwise_cons.2 ⟨fun t _ => Nat.zero_le t, h⟩)
  have hreverse : ∀ lines : List Arrival,
      (close :: lines.map Arrival.time).Pairwise (· ≥ ·) →
        (lines.reverse.map Arrival.time ++ [close]).Pairwise (· ≤ ·) := by
    intro lines hlines
    rw [List.map_reverse, ← List.reverse_cons, List.pairwise_reverse]
    exact hlines
  unfold arrivals
  simp only
  split
  · exact hreverse _ hscan
  · exact hreverse _ (hscan.line _ [])

end Feed

/-- Each line is written with a line feed; no lines are written as an empty one. -/
theorem written_eq (lines : List Text) :
    written lines = (if lines = [] then [[]] else lines).flatMap (· ++ ['\n']) := by
  induction lines with
  | nil => rfl
  | cons line lines ih =>
    cases lines with
    | nil => simp [written, Text.join]
    | cons next lines =>
      rw [if_neg (List.cons_ne_nil _ _)] at ih ⊢
      rw [List.flatMap_cons, ← ih]
      simp [written, Text.join]

namespace PlayerEvent

def received (e : PlayerEvent) : List Text := if e.lines = [] then [[]] else e.lines

theorem unbroken_received {e : PlayerEvent} {t : Text} (h : t ∈ e.received) : t.Unbroken := by
  unfold received at h
  split at h
  · rw [List.mem_singleton.1 h]
    exact Text.unbroken_nil
  · exact unbroken_line h

theorem written_events (events : List PlayerEvent) :
    (events.flatMap fun e => written e.lines) =
      (events.flatMap received).flatMap (· ++ ['\n']) := by
  simp only [List.flatMap_assoc, written_eq]
  rfl

/-- What is written for events comes in as their lines, and these are read as their commands, the
texts each on one line. The empty line for an event without commands does nothing. -/
theorem lines_received {τ : Type} [Transmitter τ] (events : List PlayerEvent)
    (chunks : List Chunk) (close : Nat)
    (h : chunks.flatMap Chunk.bytes = Utf8.encode (events.flatMap fun e => written e.lines)) :
    (Feed.arrivals chunks close).map Arrival.line = (events.flatMap received).map .ok ∧
    (∀ m : MediaEvent, m.lines.map Command.read =
      [.ok (.title (if m.isBlank then [] else m.title.oneLine)),
       .ok (.artist (if m.isBlank then [] else m.artist.oneLine)),
       .ok (.album m.album.oneLine), .ok (.genre m.genre.oneLine),
       .ok (.trackNumber m.track), .ok (.trackLength m.length)]) ∧
    (∀ p : PlaylistEvent, p.lines.map Command.read =
      (if p.action = "start".toList then [.ok .start]
        else if p.action = "stop".toList ∨ p.action = [] then [.ok .stop] else []) ++
      if p.sectionName = "MainPlaylist".toList then
        [.ok (.mainPlaylist p.name.oneLine), .ok (.playlistCount p.count),
         .ok (.playlistPosition p.position)]
      else []) ∧
    ∀ e : Engine τ, e.handleLine [] = ((e, []), .proceed) := by
  refine ⟨?_, fun m => map_read_lines (.media m), fun p => ?_, fun e => rfl⟩
  · rw [written_events] at h
    have hclean : ∀ t ∈ events.flatMap received, t.Unbroken := by
      intro t ht
      obtain ⟨e, _, hte⟩ := List.mem_flatMap.1 ht
      exact unbroken_received hte
    exact Feed.lines_arrivals hclean h close
  · have hread := map_read_lines (.playlist p)
    change p.lines.map Command.read = (p.actionCommands ++ p.sectionCommands).map .ok at hread
    rw [hread, List.map_append]
    congr 1
    · unfold PlaylistEvent.actionCommands
      split
      · rfl
      · split <;> rfl
    · unfold PlaylistEvent.sectionCommands
      split <;> rfl

/-- No line break in a title starts a command of its own. -/
theorem lines_received_title :
    let media : MediaEvent := { kind := "media".toList, title := "Song\r\nEXIT\n".toList }
    let playlist : PlaylistEvent := { action := "query".toList }
    let events : List PlayerEvent := [.media media, .playlist playlist]
    let bytes := Utf8.encode (events.flatMap fun e => written e.lines)
    let chunks : List Chunk := [⟨0, bytes.take 3⟩, ⟨7, bytes.drop 3⟩]
    chunks.flatMap Chunk.bytes = bytes ∧
      (Feed.arrivals chunks 9).map Arrival.line =
        [.ok "TSong  EXIT ".toList, .ok "A".toList, .ok "B".toList, .ok "G".toList,
          .ok "N0".toList, .ok "L0".toList, .ok []] := by
  intro media playlist events bytes chunks
  have hbytes : chunks.flatMap Chunk.bytes = bytes := by
    simp [chunks, List.take_append_drop]
  have hlines := (lines_received (τ := Recorder) events chunks 9 hbytes).1
  have hzero : Decimal.write 0 = ['0'] := by rw [Decimal.write]; rfl
  have hreceived : events.flatMap received = ["TSong  EXIT ".toList, "A".toList, "B".toList,
      "G".toList, "N0".toList, "L0".toList, []] := by
    change _ :: _ :: _ :: _ :: ('N' :: Decimal.write 0) :: ('L' :: Decimal.write 0) :: _ = _
    rw [hzero]
    rfl
  rw [hreceived] at hlines
  exact ⟨hbytes, hlines⟩

end PlayerEvent
end RadioText
