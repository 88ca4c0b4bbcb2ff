import Mathlib.Data.List.Basic
import RadioText.Metadata
import RadioText.Proofs.Text.Decimal

/-! The length of a track as a text. Minutes and seconds tell the length exactly, to the end of the
range, so it can be read off its text; and no length has two texts. -/
namespace RadioText
open Decimal

/-- A text that tells a length in minutes and seconds: the minutes in decimal, without a superfluous
zero in front, and two digits for seconds that are less than a minute. -/
inductive Clock : Text → Nat → Prop
  | mk {minutes seconds : Text} (hne : minutes ≠ []) (hminutes : ∀ c ∈ minutes, isDigit c = true)
    (hplain : minutes.head? = some '0' → minutes = ['0']) (htwo : seconds.length = 2)
    (hseconds : ∀ c ∈ seconds, isDigit c = true) (hsixty : value seconds < 60) :
    Clock (minutes ++ ':' :: seconds) (60 * value minutes + value seconds)

theorem colon_not_mem {digits : Text} (h : ∀ c ∈ digits, isDigit c = true) : ':' ∉ digits :=
  fun hc => absurd (h ':' hc) (by decide)

namespace Clock

variable {t : Text} {n : Nat}

theorem count_colon (h : Clock t n) : t.count ':' = 1 := by
  obtain ⟨_, hminutes, _, _, hseconds, _⟩ := h
  rw [List.count_append, List.count_cons_self, List.count_eq_zero.2 (colon_not_mem hminutes),
    List.count_eq_zero.2 (colon_not_mem hseconds)]

/-- The one colon says where the minutes end, so a text tells one length only. -/
theorem unique {m : Nat} (hm : Clock t m) (hn : Clock t n) : m = n := by
  obtain ⟨_, hminutes, _, _, hseconds, _⟩ := hm
  generalize ht : _ ++ ':' :: _ = t at hn
  cases hn with
  | mk =>
    obtain ⟨rfl, -, rfl⟩ := (List.append_cons_inj_of_notMem (colon_not_mem hminutes)
      (colon_not_mem hseconds)).1 ht
    rfl

end Clock

theorem trackLength_eq (n : UInt64) :
    trackLength n = write (n.toNat / 60) ++ ':' :: writeTwo (n.toNat % 60) := by
  have hsixty : (60 : UInt64).toNat = 60 := rfl
  rw [trackLength, UInt64.toNat_div, UInt64.toNat_mod, hsixty]

theorem clock_trackLength (n : UInt64) : Clock (trackLength n) n.toNat := by
  have hsixty : n.toNat % 60 < 60 := Nat.mod_lt _ (by decide)
  have htwo : n.toNat % 60 < 100 := by omega
  have hclock := Clock.mk (write_ne_nil (n.toNat / 60)) (fun _ => isDigit_of_mem_write)
    write_eq_of_head? (length_writeTwo htwo) (fun _ => isDigit_of_mem_writeTwo htwo)
    (by rwa [value_writeTwo htwo])
  rwa [value_write, value_writeTwo htwo, Nat.div_add_mod, ← trackLength_eq] at hclock

/-- No other text tells the same length. -/
theorem Clock.eq_trackLength {t : Text} {n : UInt64} (h : Clock t n.toNat) : t = trackLength n := by
  rw [trackLength_eq]
  generalize n.toNat = k at h
  obtain @⟨minutes, seconds, hne, hminutes, hplain, htwo, hseconds, hsixty⟩ := h
  have hdiv : (60 * value minutes + value seconds) / 60 = value minutes := by omega
  have hmod : (60 * value minutes + value seconds) % 60 = value seconds := by omega
  rw [hdiv, hmod, write_value hne hminutes hplain, writeTwo_value htwo hseconds]

theorem trackLength_injective : Function.Injective trackLength := by
  intro m n h
  have hm := clock_trackLength m
  rw [h] at hm
  exact UInt64.toNat_inj.1 (hm.unique (clock_trackLength n))

/-- Every length has the one text that tells it, with one colon; and different lengths have
different texts. -/
theorem trackLength_exact :
    (∀ n, (trackLength n).count ':' = 1) ∧ (∀ n t, Clock t n.toNat ↔ t = trackLength n) ∧
      Function.Injective trackLength := by
  refine ⟨fun n => (clock_trackLength n).count_colon, fun n t => ?_, trackLength_injective⟩
  constructor
  · exact Clock.eq_trackLength
  · rintro rfl
    exact clock_trackLength n

example : trackLength 18446744073709551615 = "307445734561825860:15".toList := by cbv

end RadioText
