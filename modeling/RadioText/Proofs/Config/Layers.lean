import Mathlib.Data.List.Basic
import RadioText.Proofs.Config.Assignment

/-! Layers of settings in any order. Files lie over each other in the order they come in, and what
the player and overrides say lies over all files. So a setting holds what the last of these said of
it, or else what the last file said, or else its default. -/
namespace RadioText.Config

open Assignment

/-! ### Defaults -/

def assignments (file : Value) : List Assignment :=
  file.entries.map fun (key, x) => ((Path.read key).getD [.key key], x)

def SettingsFile.assignments (f : SettingsFile) : List Assignment :=
  match f.value with
  | .ok v => Config.assignments v
  | .error _ => []

namespace Loader

def assignments (l : Loader) : List Assignment :=
  l.files.flatMap SettingsFile.assignments ++ l.overrides

end Loader

/-! ### Layers -/

inductive Layer
  | file (f : SettingsFile)
  | plugin (content : Text)
  | override (path : Text) (x : Scalar)

namespace Layer

def add (l : Loader) : Layer → Except ConfigError Loader
  | .file f => .ok (l.withFile f)
  | .plugin content => .ok (l.withPluginSettings content)
  | .override path x => l.override path x

def files : Layer → List SettingsFile
  | .file f => [f]
  | _ => []

def overrides : Layer → List Assignment
  | .file _ => []
  | .plugin content =>
    (PluginSettings.read content).filterMap fun (key, v) =>
      (pluginPath? key).map (·, .scalar none (.text v))
  | .override path x => ((Path.read path).map (·, Value.scalar none x)).toList

end Layer

namespace Loader

end Loader

namespace Layer

/-! ### Order -/

theorem pluginPath_eq_some {key : Text} {p : Path} (h : pluginPath? key = some p) :
    ∃ s ∈ Setting.all, p = s.path := by
  have hall : ∀ row ∈ pluginKeys, Setting.ofNames row.2.1 row.2.2 ∈ Setting.all := by
    decide +kernel
  obtain ⟨row, hrow, rfl⟩ := Option.map_eq_some_iff.1 h
  exact ⟨_, hall row (List.mem_of_find?_eq_some hrow), rfl⟩

def orders (s : Setting) : Layer → List Value
  | .file _ => []
  | .plugin content =>
    ((PluginSettings.read content).filter fun (key, _) => pluginPath? key = some s.path).map
      fun (_, v) => .scalar none (.text v)
  | .override path x => if path = s.dotted then [.scalar none x] else []

def values (s : Setting) : Layer → List Value
  | .file f => f.assignments.flatMap (told s)
  | _ => []

def Orderly : Layer → Prop
  | .file f => f.value.isOk ∧ ∀ a ∈ f.assignments, a.Orderly
  | .plugin _ => True
  | .override path _ => path ∈ Setting.all.map Setting.dotted

instance : DecidablePred Orderly
  | .file f => inferInstanceAs (Decidable (f.value.isOk ∧ ∀ a ∈ f.assignments, a.Orderly))
  | .plugin _ => .isTrue trivial
  | .override path _ => inferInstanceAs (Decidable (path ∈ Setting.all.map Setting.dotted))

theorem Orderly.files {x : Layer} (hx : x.Orderly) :
    ∀ f ∈ x.files, f.value.isOk ∧ ∀ a ∈ f.assignments, a.Orderly := by
  cases x with
  | file f =>
    intro g hg
    obtain rfl := List.mem_singleton.1 hg
    exact hx
  | plugin content => exact nofun
  | override path x => exact nofun

theorem Orderly.overrides {x : Layer} (hx : x.Orderly) : ∀ a ∈ x.overrides, a.Orderly := by
  cases x with
  | file f => exact nofun
  | plugin content =>
    intro a ha
    obtain ⟨⟨key, v⟩, -, ha⟩ := List.mem_filterMap.1 ha
    obtain ⟨p, hp, rfl⟩ := Option.map_eq_some_iff.1 ha
    obtain ⟨t, ht, rfl⟩ := pluginPath_eq_some hp
    exact orderly_path _ trivial
  | override path x =>
    intro a ha
    obtain ⟨t, ht, rfl⟩ := List.mem_map.1 hx
    rw [Layer.overrides, Setting.read_dotted t ht] at ha
    obtain rfl := List.mem_singleton.1 ha
    exact orderly_path _ trivial

end Layer

namespace Loader

variable {ls : List Layer}

end Loader
end RadioText.Config
