import Mathlib.Data.List.DropRight
import RadioText.Proofs.Engine.Track
import RadioText.Proofs.Metadata

/-! What is known is what was said last. A command says something about one field at most, or it
forgets the track; so all that an engine knows of a track and a playlist follows from the commands
it was given, in their order, whatever else was done between them. -/
namespace RadioText

def Field.outlastsTrack : Field → Bool
  | .playlistCount | .playlistPosition => true
  | _ => false

def Action.command? : Action → Option Command
  | .line t => (Command.read t).toOption
  | _ => none

namespace Command

def counterText (n : UInt32) : Text := if n = 0 then [] else Decimal.write n.toNat

def lengthText (n : UInt64) : Text := if n = 0 then [] else RadioText.trackLength n

def tells? : Command → Option (Field × Text)
  | .title t => some (.title, t)
  | .artist t => some (.artist, t)
  | .album t => some (.album, t)
  | .genre t => some (.genre, t)
  | .trackNumber n => some (.trackNumber, counterText n)
  | .trackLength n => some (.trackLength, lengthText n)
  | .playlistPosition n => some (.playlistPosition, counterText n)
  | .playlistCount n => some (.playlistCount, counterText n)
  | _ => none

def announces? : Command → Option Text
  | .mainPlaylist name => some name
  | _ => none

def tellsOf? (k : Field) (c : Command) : Option Text :=
  c.tells?.bind fun (j, t) => if j = k then some t else none

def told (k : Field) (cs : List Command) : List Text := cs.filterMap (tellsOf? k)

/-- The commands that count for a field: a stop forgets the track. -/
def counting (k : Field) (cs : List Command) : List Command :=
  if k.outlastsTrack then cs else cs.rtakeWhile (· ≠ .stop)

theorem spells_counterText {n : UInt32} (h : n ≠ 0) : Decimal.Spells (counterText n) n.toNat := by
  rw [counterText, if_neg h]
  exact Decimal.spells_write n.toNat

theorem lengthText_eq {n : UInt64} (h : n ≠ 0) :
    lengthText n = Decimal.write (n.toNat / 60) ++
      [':', Decimal.digit (n.toNat % 60 / 10), Decimal.digit (n.toNat % 60 % 10)] := by
  have hlt : n.toNat % 60 < 100 := by omega
  rw [lengthText, if_neg h, trackLength_eq, Decimal.writeTwo_eq hlt]

theorem value?_counterText (n : UInt32) :
    (counterText n).value? = if n = 0 then none else some (Decimal.write n.toNat) := by
  unfold counterText
  split
  · rfl
  · exact if_neg (Decimal.write_ne_nil _)

theorem value?_lengthText (n : UInt64) :
    (lengthText n).value? = if n = 0 then none else some (RadioText.trackLength n) := by
  unfold lengthText
  split
  · rfl
  · exact if_neg (by simp [RadioText.trackLength])

/-- A command that says something sets that field and nothing else. -/
theorem revise_of_tells {c : Command} {k : Field} {t : Text} (h : c.tells? = some (k, t))
    (m : Metadata) : c.revise m = m.assign k t.value? := by
  cases c with
  | title | artist | album | genre =>
    cases h
    simp [revise, Metadata.set, Text.value?]
  | trackNumber | playlistPosition | playlistCount =>
    cases h
    rw [value?_counterText]
    rfl
  | trackLength =>
    cases h
    rw [value?_lengthText]
    rfl
  | _ => cases h

theorem revise_of_tells_nothing {c : Command} (h : c.tells? = none) (m : Metadata) :
    c.revise m = if c = .stop then m.clearTrack else m := by
  cases c with
  | stop => rfl
  | init | start | reset | update | exit | mainPlaylist => rfl
  | _ => cases h

theorem stored_clearTrack (m : Metadata) (k : Field) :
    m.clearTrack.stored k = if k.outlastsTrack then m.stored k else none := by
  cases k <;> rfl

theorem counting_concat (k : Field) (cs : List Command) (c : Command) :
    counting k (cs ++ [c]) =
      if c = .stop ∧ k.outlastsTrack = false then [] else counting k cs ++ [c] := by
  unfold counting
  cases hk : k.outlastsTrack with
  | true => simp
  | false => by_cases hc : c = .stop <;> simp [hc]

theorem told_concat (k : Field) (cs : List Command) (c : Command) :
    told k (cs ++ [c]) = told k cs ++ (tellsOf? k c).toList := by
  rw [told, List.filterMap_append]
  cases h : tellsOf? k c <;> simp [told, h]

/-- After commands a field has the text they gave last, of those that count for it. -/
theorem stored_foldl_revise (k : Field) (cs : List Command) :
    (cs.foldl revise .empty).stored k = (told k (counting k cs)).getLast?.bind Text.value? := by
  induction cs using List.reverseRecOn with
  | nil =>
    have hnone : told k (counting k []) = [] := by simp [counting, told]
    rw [hnone]
    cases k <;> rfl
  | append_singleton cs c ih =>
    rw [List.foldl_append, List.foldl_cons, List.foldl_nil, counting_concat]
    cases hc : c.tells? with
    | some said =>
      obtain ⟨j, t⟩ := said
      have hstop : c ≠ .stop := by
        rintro rfl
        cases hc
      rw [if_neg (fun h => hstop h.1), revise_of_tells hc, Metadata.stored_assign, told_concat]
      by_cases hj : k = j
      · simp [tellsOf?, hc, hj]
      · simp [tellsOf?, hc, hj, Ne.symm hj, ih]
    | none =>
      have hsilent : tellsOf? k c = none := by simp [tellsOf?, hc]
      rw [revise_of_tells_nothing hc]
      by_cases hstop : c = .stop
      · rw [if_pos hstop, stored_clearTrack]
        cases hk : k.outlastsTrack with
        | true => simp [told_concat, hsilent, ih]
        | false => simp [hstop, told]
      · rw [if_neg hstop, if_neg (fun h => hstop h.1), told_concat, hsilent, ih]
        simp

end Command

namespace Metadata

theorem value?_eq_stored {m : Metadata} {k : Field} (h : ∀ t, m.stored k = some t → t ≠ []) :
    m.value? k = m.stored k := by
  unfold value?
  cases hs : m.stored k with
  | none => rfl
  | some t => simpa using h t hs

theorem isEmpty_iff (m : Metadata) : m.isEmpty = true ↔ ∀ k, m.stored k = none := by
  rw [isEmpty, List.isEmpty_iff, entries, List.filterMap_eq_nil_iff]
  constructor
  · intro h k
    have hk : k ∈ Field.all := by cases k <;> decide
    simpa using h k hk
  · intro h k _
    simp [h k]

end Metadata

theorem Action.revise_eq (a : Action) (m : Metadata) :
    a.revise m = a.command?.elim m (Command.revise m) := by
  cases a with
  | line t => cases hc : Command.read t <;> simp [revise, command?, hc, Except.toOption]
  | tick | refresh | reconfigure | cycle => rfl

theorem Action.foldl_revise_eq (actions : List Action) (m : Metadata) :
    actions.foldl revise m = (actions.filterMap command?).foldl Command.revise m := by
  rw [List.foldl_filterMap]
  refine List.foldl_ext _ _ _ fun m a _ => ?_
  rw [revise_eq]
  cases a.command? <;> rfl

namespace Engine

variable {τ : Type} [Transmitter τ]

theorem playlist_startTransmitter (e : Engine τ) : e.startTransmitter.1.playlist = e.playlist := by
  obtain ⟨_, h⟩ | ⟨_, _, a, t, _, h⟩ := e.startTransmitter_cases <;> rw [h]

theorem playlist_stopTransmitter (e : Engine τ) : e.stopTransmitter.1.playlist = e.playlist := by
  obtain ⟨_, h⟩ | ⟨_, a, t, _, h⟩ := e.stopTransmitter_cases <;> rw [h]

theorem playlist_cycleTransmitter (e : Engine τ) : e.cycleTransmitter.1.playlist = e.playlist := by
  rw [← e.playlist_stopTransmitter]
  unfold cycleTransmitter Step.andThen
  simp only
  split
  · exact playlist_startTransmitter _
  · rfl

/-- Only an announcement gives the playlist another name. -/
theorem playlist_apply (e : Engine τ) (c : Command) :
    (e.apply c).1.1.playlist = c.announces?.elim e.playlist Text.value? := by
  cases c with
  | init | start =>
    rw [apply]
    split
    · exact e.playlist_startTransmitter
    · rfl
  | stop =>
    rw [apply]
    simp only
    split
    · exact playlist_stopTransmitter _
    · rfl
  | exit => exact e.playlist_stopTransmitter
  | mainPlaylist name =>
    rw [apply]
    simp [Command.announces?, Text.value?]
  | _ => rfl

theorem playlist_act (e : Engine τ) (a : Action) :
    (e.act a).1.playlist = (a.command?.bind Command.announces?).elim e.playlist Text.value? := by
  cases a with
  | line t =>
    cases hc : Command.read t with
    | ok c =>
      rw [act, handleLine_ok hc, playlist_apply]
      simp [Action.command?, hc, Except.toOption]
    | error err =>
      rw [act, engine_handleLine_error hc]
      simp [Action.command?, hc, Except.toOption]
  | tick s => exact (e.alike_tick s).playlist
  | refresh => rfl
  | reconfigure s => exact e.playlist_reconfigure s
  | cycle => exact e.playlist_cycleTransmitter

theorem playlist_run (e : Engine τ) (actions : List Action) :
    (e.run actions).1.playlist =
      (((actions.filterMap Action.command?).filterMap Command.announces?).getLast?).elim
        e.playlist Text.value? := by
  induction actions using List.reverseRecOn with
  | nil => rfl
  | append_singleton actions a ih =>
    rw [run_concat, run_cons, run_nil, playlist_act, ih]
    cases hc : a.command? with
    | none => simp [hc]
    | some c => cases hn : c.announces? <;> simp [hc, hn]

/-- All that an engine knows comes from the commands it was given. A field has the text of the last
command for it, of the track only of those behind the last stop; the playlist has the name
announced last; an empty text or the number `0` is nothing. Whatever is no command leaves all
values alone. So no empty text is ever kept, and the metadata is empty if no field has a value. A
counter is written without leading zeros, a length as minutes and two digits of seconds. -/
theorem metadata_of_commands (settings : Settings) (transmitter : τ) (actions : List Action) :
    let e := ((ofSettings settings transmitter).1.run actions).1
    let heard := actions.filterMap Action.command?
    (∀ k, e.metadata.value? k =
      (Command.told k (Command.counting k heard)).getLast?.bind Text.value?) ∧
    e.playlist = (heard.filterMap Command.announces?).getLast?.bind Text.value? ∧
    (∀ a : Action, a.command? = none →
      (e.act a).1.metadata = e.metadata ∧ (e.act a).1.playlist = e.playlist) ∧
    (∀ k t, e.metadata.stored k = some t → t ≠ []) ∧
    (e.metadata.isEmpty = true ↔ ∀ k, e.metadata.value? k = none) ∧
    (∀ n : UInt32, n ≠ 0 → Decimal.Spells (Command.counterText n) n.toNat) ∧
    ∀ n : UInt64, n ≠ 0 → ∃ minutes, Decimal.Spells minutes (n.toNat / 60) ∧
      Command.lengthText n = minutes ++
        [':', Decimal.digit (n.toNat % 60 / 10), Decimal.digit (n.toNat % 60 % 10)] := by
  intro e heard
  have hturn := atTurn_ofSettings settings transmitter .ps
  obtain ⟨_, hafter⟩ := hturn.exists_run actions
  have hmetadata : e.metadata = heard.foldl Command.revise .empty := by
    rw [← Action.foldl_revise_eq]
    exact metadata_run hturn.styled actions
  have hstored (k : Field) : e.metadata.stored k =
      (Command.told k (Command.counting k heard)).getLast?.bind Text.value? := by
    rw [hmetadata, Command.stored_foldl_revise]
  have hnonempty (k : Field) (t : Text) (h : e.metadata.stored k = some t) : t ≠ [] := by
    rw [hstored] at h
    obtain ⟨u, _, hu⟩ := Option.bind_eq_some_iff.1 h
    unfold Text.value? at hu
    split at hu
    · cases hu
    · rename_i hne
      cases hu
      exact hne
  have hvalue (k : Field) : e.metadata.value? k = e.metadata.stored k :=
    Metadata.value?_eq_stored (hnonempty k)
  refine ⟨fun k => (hvalue k).trans (hstored k), ?_, fun a ha => ⟨?_, ?_⟩, hnonempty, ?_,
    fun n hn => Command.spells_counterText hn,
    fun n hn => ⟨_, Decimal.spells_write _, Command.lengthText_eq hn⟩⟩
  · have hplaylist := (ofSettings settings transmitter).1.playlist_run actions
    exact hplaylist.trans (by cases (heard.filterMap Command.announces?).getLast? <;> rfl)
  · rw [metadata_act hafter.styled, Action.revise_eq, ha]
    rfl
  · rw [playlist_act, ha]
    rfl
  · rw [Metadata.isEmpty_iff]
    simp only [hvalue]

end Engine
end RadioText
