import RadioText.Config.Loader

/-! Settings that a loader gives out. Whatever its files and overrides say, it refuses rates that no
timer can keep and buffer sizes that no receiver has. -/
namespace RadioText

structure Settings.Valid (s : Settings) : Prop where
  rate : ∀ service, 1 ≤ (s.services.get service).rate
  rtSize : s.rtSize = 32 ∨ s.rtSize = 64

def Settings.Built (s : Settings) : Prop :=
  ∃ (l : Config.Loader) (c : Config.Configuration), l.build = .ok c ∧ c.settings = s

namespace Config

/-- A configuration that is not refused is passed on as it is. -/
theorem Configuration.validate_eq_ok {c c' : Configuration} (h : c.validate = .ok c') :
    c' = c ∧ c.settings.Valid := by
  unfold validate at h
  split at h
  · cases h
  · rename_i hsize
    split at h
    · cases h
    · rename_i hrates
      cases h
      have hmem : c.settings.rtSize ∈ rtSizes := Decidable.not_not.1 hsize
      refine ⟨rfl, fun service => ?_, by simpa [rtSizes] using hmem⟩
      obtain ⟨hps, hrt⟩ := not_or.1 hrates
      cases service with
      | ps => exact Nat.one_le_iff_ne_zero.2 hps
      | rt => exact Nat.one_le_iff_ne_zero.2 hrt

theorem Loader.valid_of_build {l : Loader} {c : Configuration} (h : l.build = .ok c) :
    c.settings.Valid := by
  unfold build at h
  cases hv : l.value with
  | error err =>
    rw [hv] at h
    cases h
  | ok v =>
    rw [hv] at h
    change (Configuration.ofValue v >>= Configuration.validate) = .ok c at h
    cases hc : Configuration.ofValue v with
    | error err =>
      rw [hc] at h
      cases h
    | ok read =>
      rw [hc] at h
      obtain ⟨rfl, hvalid⟩ := Configuration.validate_eq_ok h
      exact hvalid

end Config

theorem Settings.Built.valid {s : Settings} (h : s.Built) : s.Valid := by
  obtain ⟨l, c, hbuild, rfl⟩ := h
  exact Config.Loader.valid_of_build hbuild

end RadioText
