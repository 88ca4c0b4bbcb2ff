import RadioText.Config.Configuration
import RadioText.Config.PluginSettings
import RadioText.Config.Toml
import RadioText.Text.Utf8

/-! Where settings come from. Files lie over the defaults in the order given, later ones over
earlier ones; overrides, and the player's settings among them, lie over all files. -/
namespace RadioText.Config

/-- A TOML file: the name it was asked for by, the name its values are known by, and what it holds;
`none` if there is no such file. -/
structure SettingsFile where
  name : Text
  origin : Text
  body : Option Bytes
  required : Bool

structure Loader where
  files : List SettingsFile := []
  overrides : List (Path × Value) := []

/-- Values that hold unless something else is said. -/
def defaults : List (String × String × Scalar) :=
  [("rds", "enabled", .boolean true),
   ("rds", "ps_style",
      .text "Merry|Christ-|  -mas!|\x7bT\x7d|\x7bA\x7d|[\x7bN\x7d of \x7bC\x7d]".toList),
   ("rds", "ps_update_rate", .integer 4),
   ("rds", "ps_fallback", .text []),
   ("rds", "rt_style",
      .text "Merry Christmas!|\x7bT\x7d[ by \x7bA\x7d]|[Track \x7bN\x7d of \x7bC\x7d]".toList),
   ("rds", "rt_update_rate", .integer 8),
   ("rds", "rt_size", .integer 32),
   ("rds", "rt_fallback", .text []),
   ("engine", "start", .text "fppd-start".toList),
   ("engine", "stop", .text "never".toList),
   ("engine", "log_level", .text "info".toList),
   ("engine", "fifo_path", .text "Dynamic_RDS_FIFO".toList)]

/-- The tree of settings before any file. -/
def defaultValue : Value :=
  defaults.foldl (fun v (part, key, s) =>
    Path.set (.scalar none s) [.key part.toList, .key key.toList] v) (.table none [])

/-- The names that settings have for the player, and their paths. -/
def pluginKeys : List (String × String × String) :=
  [("DynRDSEnableRDS", "rds", "enabled"),
   ("DynRDSPSStyle", "rds", "ps_style"),
   ("DynRDSPSUpdateRate", "rds", "ps_update_rate"),
   ("DynRDSRTStyle", "rds", "rt_style"),
   ("DynRDSRTUpdateRate", "rds", "rt_update_rate"),
   ("DynRDSRTSize", "rds", "rt_size"),
   ("DynRDSStart", "engine", "start"),
   ("DynRDSStop", "engine", "stop"),
   ("DynRDSEngineLogLevel", "engine", "log_level")]

def pluginPath? (key : Text) : Option Path :=
  (pluginKeys.find? (·.1.toList = key)).map fun (_, part, name) =>
    [.key part.toList, .key name.toList]

def notUtf8 : Text := "stream did not contain valid UTF-8".toList

namespace Loader

def withFile (l : Loader) (f : SettingsFile) : Loader := { l with files := l.files ++ [f] }

def withOverrides (l : Loader) (os : List (Path × Value)) : Loader :=
  { l with overrides := l.overrides ++ os }

/-- Override the setting that a path names. -/
def override (l : Loader) (path : Text) (s : Scalar) : Except ConfigError Loader :=
  match Path.read path with
  | some p => .ok (l.withOverrides [(p, .scalar none s)])
  | none => .error .badPath

/-- Lay the player's settings over all files; keys that mean nothing here are passed over. -/
def withPluginSettings (l : Loader) (content : Text) : Loader :=
  l.withOverrides ((PluginSettings.read content).filterMap fun (key, v) =>
    (pluginPath? key).map (·, .scalar none (.text v)))

/-- What reading a file gives: its bytes, nothing if there is no such file, or a reason why not. -/
abbrev FileBody := Except Text (Option Bytes)

/-- Lay the player's settings file over all files. -/
def withPluginFile (l : Loader) (name : Text) (body : FileBody) (required : Bool) :
    Except ConfigError Loader :=
  match body with
  | .error reason => .error (.unreadable reason)
  | .ok none => if required then .error (.notFound name) else .ok l
  | .ok (some bytes) =>
    match Utf8.decode bytes with
    | .error _ => .error (.unreadable notUtf8)
    | .ok content => .ok (l.withPluginSettings content)

end Loader

/-- Lay the top entries of a file over a tree of settings. A key that is a path stands for it. -/
def overlay (file : Value) (v : Value) : Value :=
  file.entries.foldl (fun v (key, entry) =>
    match Path.read key with
    | some p => Path.set entry p v
    | none => v.set key entry) v

/-- The tree of settings in a file. -/
def SettingsFile.value (f : SettingsFile) : Except ConfigError Value :=
  let nothing : Value := .table none []
  match f.body with
  | none =>
    if f.required then
      .error (.unreadable ("configuration file \"".toList ++ f.name ++ "\" not found".toList))
    else .ok nothing
  | some bytes =>
    match Utf8.decode bytes with
    | .error _ => if f.required then .error (.unreadable notUtf8) else .ok nothing
    | .ok t =>
      match Toml.read (some f.origin) t with
      | some v => .ok v
      | none => .error (.malformed f.origin)

namespace Loader

/-- All layers in one tree. -/
def value (l : Loader) : Except ConfigError Value := do
  let v ← l.files.foldlM (fun v f => return overlay (← f.value) v) defaultValue
  return l.overrides.foldl (fun v (p, o) => Path.set o p v) v

def build (l : Loader) : Except ConfigError Configuration := do
  (← Configuration.ofValue (← l.value)).validate

end Loader
end RadioText.Config
