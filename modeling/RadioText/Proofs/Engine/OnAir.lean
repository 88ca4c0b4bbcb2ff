import RadioText.Proofs.Engine.Calls

/-! On air and off again. However often calls fail, the startups and shutdowns that a recorder has
taken alternate from a startup on, and every line it has taken is one that came on air. -/
namespace RadioText

/-- A transmitter whose calls can fail: of the calls from now on, those at the refused numbers are
answered without effect. -/
structure Flaky (τ : Type) where
  inner : τ
  refused : Nat → Bool

def Flaky.perform {τ : Type} [Transmitter τ] (f : Flaky τ) (c : Call) : Answer × Flaky τ :=
  let refused (n : Nat) := f.refused (n + 1)
  if f.refused 0 then (.inactive, ⟨f.inner, refused⟩)
  else
    let (a, inner) := Transmitter.perform f.inner c
    (a, ⟨inner, refused⟩)

instance {τ : Type} [Transmitter τ] : Transmitter (Flaky τ) :=
  ⟨fun f => Transmitter.isActive f.inner, Flaky.perform⟩

def Call.switches : Call → Bool
  | .startup | .shutdown => true
  | _ => false

def alternating (n : Nat) : List Call :=
  (List.range n).map fun i => if i % 2 = 0 then .startup else .shutdown

theorem alternating_succ (n : Nat) :
    alternating (n + 1) = alternating n ++ [if n % 2 = 0 then .startup else .shutdown] := by
  simp [alternating, List.range_succ]

def onAir : List Call → Bool
  | [] => false
  | .startup :: _ => true
  | .shutdown :: _ => false
  | _ :: earlier => onAir earlier

def InOrder : List Call → Prop
  | [] => True
  | c :: earlier => c.fits (onAir earlier) = true ∧ InOrder earlier

theorem filter_switches_cons (c : Call) (earlier : List Call) :
    (c :: earlier).reverse.filter Call.switches =
      earlier.reverse.filter Call.switches ++ if c.switches then [c] else [] := by
  rw [List.reverse_cons, List.filter_append]
  cases c <;> rfl

/-- A transmitter is on air if the last switch was a startup. -/
theorem onAir_iff (sent : List Call) :
    onAir sent = true ↔ (sent.reverse.filter Call.switches).getLast? = some .startup := by
  induction sent with
  | nil => simp [onAir]
  | cons c earlier ih =>
    rw [filter_switches_cons]
    cases c with
    | startup | shutdown => simp [onAir, Call.switches]
    | «show» | rtSize => simpa [onAir, Call.switches] using ih

/-- Switches that fit alternate, and their number says whether the transmitter is on air. -/
theorem InOrder.switches {sent : List Call} (h : InOrder sent) :
    ∃ n, sent.reverse.filter Call.switches = alternating n ∧ (onAir sent = true ↔ n % 2 = 1) := by
  induction sent with
  | nil => exact ⟨0, rfl, by simp [onAir]⟩
  | cons c earlier ih =>
    obtain ⟨hfits, h⟩ := h
    obtain ⟨n, halternate, hparity⟩ := ih h
    rw [filter_switches_cons, halternate]
    -- A startup fits only behind an even number of switches, a shutdown only behind an odd one.
    cases c with
    | startup =>
      have heven : n % 2 = 0 := by
        have hoff : onAir earlier = false := by simpa [Call.fits] using hfits
        simp only [hoff, Bool.false_eq_true, false_iff] at hparity
        omega
      refine ⟨n + 1, ?_, ?_⟩
      · rw [alternating_succ, if_pos heven]
        rfl
      · simp only [onAir, true_iff]
        omega
    | shutdown =>
      have hodd : n % 2 = 1 := hparity.1 hfits
      refine ⟨n + 1, ?_, ?_⟩
      · rw [alternating_succ, if_neg (show ¬ n % 2 = 0 by omega)]
        rfl
      · simp only [onAir, Bool.false_eq_true, false_iff]
        omega
    | «show» | rtSize => exact ⟨n, List.append_nil _, hparity⟩

theorem InOrder.of_append {later earlier : List Call} (h : InOrder (later ++ earlier)) :
    InOrder earlier := by
  induction later with
  | nil => exact h
  | cons c later ih => exact ih h.2

namespace Recorder

structure Consistent (r : Recorder) : Prop where
  inOrder : InOrder r.sent
  active : r.active = onAir r.sent

theorem Consistent.perform {r : Recorder} (h : r.Consistent) {c : Call}
    (hc : c.fits r.active = true) : (r.perform c).2.Consistent := by
  have hfits : c.fits (onAir r.sent) = true := h.active ▸ hc
  cases c with
  | startup | shutdown => exact ⟨⟨hfits, h.inOrder⟩, rfl⟩
  | «show» s line =>
    have hon : r.active = true := hc
    rw [Recorder.perform, if_pos hon]
    exact ⟨⟨hfits, h.inOrder⟩, h.active⟩
  | rtSize n => exact h

end Recorder

theorem Flaky.consistent_perform {f : Flaky Recorder} (h : f.inner.Consistent) {c : Call}
    (hc : c.fits (Transmitter.isActive f) = true) :
    (Transmitter.perform f c).2.inner.Consistent := by
  change (f.perform c).2.inner.Consistent
  unfold perform
  cases f.refused 0 with
  | true => exact h
  | false => exact h.perform hc

namespace Engine

/-- A recorder that starts off air, however often its calls fail: its startups and shutdowns
alternate, each line it has taken stands behind a startup with no shutdown in between, and it is
active if the last switch was a startup. -/
theorem onAir_run (settings : Settings) (refused : Nat → Bool) (actions : List Action) :
    let e := ((ofSettings settings (⟨{}, refused⟩ : Flaky Recorder)).run actions).1
    let calls := e.transmitter.inner.calls
    let switches := calls.filter Call.switches
    switches = alternating switches.length ∧
      (∀ before s line after, calls = before ++ .show s line :: after →
        (before.filter Call.switches).getLast? = some .startup) ∧
      (e.transmitter.inner.active = true ↔ switches.getLast? = some .startup) := by
  intro e calls switches
  have hconsistent : e.transmitter.inner.Consistent :=
    Leads.invariant (P := fun f : Flaky Recorder => f.inner.Consistent)
      (fun _ _ h hc => Flaky.consistent_perform h hc)
      (Step.leads_run (leads_ofSettings settings _) actions) ⟨trivial, rfl⟩
  refine ⟨?_, fun before s line after hsplit => ?_, ?_⟩
  · obtain ⟨n, hn, _⟩ := hconsistent.inOrder.switches
    change switches = alternating n at hn
    have hlength : switches.length = n := by simp [hn, alternating]
    rw [hlength, hn]
  · have hsent : e.transmitter.inner.sent = after.reverse ++ .show s line :: before.reverse := by
      have hreverse := congrArg List.reverse hsplit
      simpa [calls, Recorder.calls] using hreverse
    have hinOrder := hconsistent.inOrder
    rw [hsent] at hinOrder
    have hon : onAir before.reverse = true := hinOrder.of_append.1
    rwa [onAir_iff, List.reverse_reverse] at hon
  · rw [hconsistent.active]
    exact onAir_iff _

end Engine
end RadioText
