import RadioText.CommandLine.Folder
import RadioText.CommandLine.Invocation
import RadioText.Config.Loader

/-! The configuration that a command runs with: the file named or the usual one, and over it the
player's settings. -/
namespace RadioText.CommandLine

/-- What the surroundings of a run say. -/
structure Environment where
  /-- Where the player keeps its settings. -/
  configDirectory : Option Text := none
  /-- What is to be logged. -/
  logRules : Option Text := none

/-- The configuration file that is read if it is there. -/
def usualConfig : Text := "dynrds.toml".toList

/-- Whether a path leads to a device, which is no settings file. -/
def isDevice (path : Text) : Bool := (Text.after? "/dev/".toList (PathName.tidy path)).isSome

/-- The path with the extension of a configuration file added to its name, if it has a name. -/
def withExtension? (path : Text) : Option Text :=
  let tidy := PathName.tidy path
  match (PathName.parts tidy).getLast? with
  | some name =>
    if name.isEmpty ∨ PathName.climbs name then none else some (tidy ++ ".toml".toList)
  | none => none

/-- The paths where a configuration file may be, the first one there counts. -/
def configPaths (path : Text) : List Text := path :: (withExtension? path).toList

def settingsFile (files : Files) (path : Text) (required : Bool) : Config.SettingsFile :=
  let body? (path : Text) : Option Bytes := if isDevice path then none else (files path).toOption
  match (configPaths path).findSome? fun path => (body? path).map (path, ·) with
  | some (found, body) => ⟨path, PathName.tidy found, some body, required⟩
  | none => ⟨path, path, none, required⟩

/-- A file that need not be there. -/
def optionalFile (files : Files) (path : Text) : Config.Loader.FileBody :=
  match files path with
  | .ok body => .ok (some body)
  | .error .missing => .ok none
  | .error e => .error e.message

namespace Sources

def configFile (s : Sources) : Text := s.config.getD usualConfig

def pluginFile (s : Sources) (env : Environment) : Text :=
  s.pluginConfig.getD (PluginSettings.defaultFile env.configDirectory)

/-- All paths that are looked at. -/
def paths (s : Sources) (env : Environment) : List Text :=
  s.pluginFile env :: configPaths s.configFile

/-- A file must be there if it has been asked for by name. -/
def configuration (s : Sources) (env : Environment) (files : Files) :
    Except Config.ConfigError Config.Configuration := do
  let l : Config.Loader := {}
  let l := l.withFile (settingsFile files s.configFile s.config.isSome)
  let plugin := s.pluginFile env
  (← l.withPluginFile plugin (optionalFile files plugin) s.pluginConfig.isSome).build

end Sources
end RadioText.CommandLine
