import RadioText.Config.Path
import RadioText.Settings
import RadioText.Text.Quoted
import RadioText.Text.Shortest

/-! The configuration as the program uses it, and how it is read off a tree of settings: each
setting takes the values that can stand for its type. -/
namespace RadioText.Config

/-- Why there is no configuration. -/
inductive ConfigError
  /-- A value that cannot stand for the type of its setting: what it is, what is expected, the
  setting, and the file. -/
  | unfit (found expected setting : Text) (origin : Option Text)
  | message (t : Text)
  | notFound (path : Text)
  /-- A file that cannot be read. -/
  | unreadable (reason : Text)
  /-- A file that is not TOML. -/
  | malformed (file : Text)
  /-- A name of a setting that is no path. -/
  | badPath

def ConfigError.text : ConfigError → Text
  | unfit found expected setting origin =>
    "invalid type: ".toList ++ found ++ ", expected ".toList ++ expected
      ++ " for key ".toList ++ '\x60' :: setting ++ '\x60'
      :: (match origin with
        | some o => " in ".toList ++ o
        | none => [])
  | message t => t
  | notFound path => "configuration property ".toList ++ Quoted.quote path ++ " not found".toList
  | unreadable reason => reason
  | malformed file => "TOML parse error in ".toList ++ file
  | badPath => "malformed path".toList

structure Configuration where
  settings : Settings
  logLevel : Text
  fifoPath : Text

/-- A value that cannot be read as what a setting needs. -/
inductive Misfit
  | expected (found : Text) (what : String)
  | said (t : Text)

/-- Between grave accents. -/
def ticked (t : Text) : Text := '\x60' :: t ++ ['\x60']

/-- What a value is called where a setting of another type is expected. -/
def Value.described : Value → Text
  | .scalar _ .null => "unit value".toList
  | .scalar _ (.boolean b) => "boolean ".toList ++ ticked (toString b).toList
  | .scalar _ (.integer i) =>
    (if i < Path.indexLimit then "64-bit integer " else "64-bit unsigned integer ").toList
      ++ ticked (Decimal.writeInt i)
  | .scalar _ (.number x) => "floating point ".toList ++ ticked (Shortest.write x)
  | .scalar _ (.text t) => "string ".toList ++ Quoted.quote t
  | .table _ _ => "map".toList
  | .list _ _ => "sequence".toList

/-- Words for yes and for no, in lower case; a boolean has a digit too. -/
def yesWords : List Text := ["true", "on", "yes"].map String.toList

def noWords : List Text := ["false", "off", "no"].map String.toList

def readBoolean (v : Value) : Except Misfit Bool :=
  match v with
  | .scalar _ (.boolean b) => .ok b
  | .scalar _ (.integer i) => .ok (i ≠ 0)
  | .scalar _ (.number x) => .ok (x != 0)
  | .scalar o (.text t) =>
    let t := t.lower
    if t = ['1'] || yesWords.contains t then .ok true
    else if t = ['0'] || noWords.contains t then .ok false
    else .error (.expected (Value.described (.scalar o (.text t))) "a boolean")
  | v => .error (.expected v.described "a boolean")

def naturalLimit : Nat := UInt64.size

/-- A whole number of 64 bits from zero on. Numbers with a fraction are rounded, a half away from
zero, and what is out of range goes to the end of the range. -/
def readNatural (v : Value) : Except Misfit Nat :=
  match v with
  | .scalar _ (.boolean b) => .ok b.toNat
  | .scalar _ (.integer i) =>
    if 0 ≤ i then .ok i.toNat
    else .error (.expected v.described "an unsigned 64 bit or less integer")
  | .scalar _ (.number x) => .ok x.round.toUInt64.toNat
  | .scalar _ (.text t) =>
    let l := t.lower
    if yesWords.contains l then .ok 1
    else if noWords.contains l then .ok 0
    else
      match Decimal.read? naturalLimit t with
      | some n => .ok n
      | none => .error (.expected v.described "an integer")
  | v => .error (.expected v.described "an integer")

def readText (v : Value) : Except Misfit Text :=
  match v with
  | .scalar _ (.text t) => .ok t
  | .scalar _ (.boolean b) => .ok (toString b).toList
  | .scalar _ (.integer i) => .ok (Decimal.writeInt i)
  | .scalar _ (.number x) => .ok (Shortest.write x)
  | v => .error (.expected v.described "a string")

/-- One of a list of named choices; case does not matter, and a table with one key is as good as
the key. -/
def readChoice (name : String) (choices : List (String × α)) (v : Value) : Except Misfit α :=
  let pick (t : Text) : Except Misfit α :=
    match choices.find? fun (s, _) => Text.lower s.toList = t.lower with
    | some (_, a) => .ok a
    | none =>
      .error (.said ("enum ".toList ++ name.toList
        ++ " does not have variant constructor ".toList ++ t))
  match v with
  | .scalar _ (.text t) => pick t
  | .table _ [(key, _)] => pick key
  | _ =>
    .error (.said ("value of enum ".toList ++ name.toList
      ++ " should be represented by either string or table with exactly one key".toList))

def readStart : Value → Except Misfit StartMode :=
  readChoice "StartMode" [("fppd-start", .fppdStart), ("FPPDStart", .fppdStart),
    ("playlist-start", .playlistStart), ("PlaylistStart", .playlistStart)]

def readStop : Value → Except Misfit StopMode :=
  readChoice "StopMode" [("never", .never), ("playlist-stop", .playlistStop),
    ("PlaylistStop", .playlistStop)]

/-- A group of settings: a table by name, or a list in the order of the settings. -/
structure Section where
  name : String
  /-- What the group is called where it is not one. -/
  kind : String
  size : Nat
  value : Value

namespace Section

/-- What stands where a table is expected. -/
def described : Value → Text
  | .scalar _ (.integer i) => "integer ".toList ++ ticked (Decimal.writeInt i)
  | .scalar _ (.number x) =>
    let t := Shortest.write x
    let whole := !x.isNaN && !x.isInf && !t.contains '.'
    "floating point ".toList ++ ticked (if whole then t ++ ['.', '0'] else t)
  | v => v.described

def check (s : Section) : Except ConfigError Unit :=
  match s.value with
  | .scalar _ _ =>
    .error (.message ("invalid type: ".toList ++ described s.value ++ ", expected struct ".toList
      ++ s.kind.toList))
  | _ => .ok ()

/-- The value of a setting and its full name; `i` is its place in the order of the settings. -/
def find? (s : Section) (i : Nat) (key : String) : Option (Value × Text) :=
  match s.value with
  | .list _ vs =>
    (vs[i]?).map fun v => (v, s.name.toList ++ '[' :: Decimal.write i ++ [']'])
  | v => (Value.lookup key.toList v.entries).map fun v => (v, s.name.toList ++ '.' :: key.toList)

/-- A setting, if it is there. -/
def setting? (s : Section) (i : Nat) (key : String) (read : Value → Except Misfit α) :
    Except ConfigError (Option α) :=
  match s.find? i key with
  | none => .ok none
  | some (v, full) =>
    match read v with
    | .ok a => .ok (some a)
    | .error (.expected found what) => .error (.unfit found what.toList full v.origin)
    | .error (.said t) => .error (.message t)

/-- The setting itself, once every setting there is has been read. -/
def require (s : Section) (i : Nat) (key : String) : Option α → Except ConfigError α
  | some a => .ok a
  | none =>
    match s.value with
    | .list _ _ =>
      .error (.message ("invalid length ".toList ++ Decimal.write i ++ ", expected struct ".toList
        ++ s.kind.toList ++ " with ".toList ++ Decimal.write s.size ++ " elements".toList))
    | _ => .error (.message ("missing field ".toList ++ ticked key.toList))

end Section

structure RdsSection where
  enabled : Bool
  ps : ServiceSettings
  rt : ServiceSettings
  rtSize : Nat

def readRds (v : Value) : Except ConfigError RdsSection := do
  let s : Section := ⟨"rds", "RdsConfig", 8, v⟩
  s.check
  let enabled ← s.setting? 0 "enabled" readBoolean
  let psStyle ← s.setting? 1 "ps_style" readText
  let psRate ← s.setting? 2 "ps_update_rate" readNatural
  let psFallback ← s.setting? 3 "ps_fallback" readText
  let rtStyle ← s.setting? 4 "rt_style" readText
  let rtRate ← s.setting? 5 "rt_update_rate" readNatural
  let rtSize ← s.setting? 6 "rt_size" readNatural
  let rtFallback ← s.setting? 7 "rt_fallback" readText
  let enabled ← s.require 0 "enabled" enabled
  let psStyle ← s.require 1 "ps_style" psStyle
  let psRate ← s.require 2 "ps_update_rate" psRate
  let psFallback ← s.require 3 "ps_fallback" psFallback
  let rtStyle ← s.require 4 "rt_style" rtStyle
  let rtRate ← s.require 5 "rt_update_rate" rtRate
  let rtSize ← s.require 6 "rt_size" rtSize
  let rtFallback ← s.require 7 "rt_fallback" rtFallback
  return ⟨enabled, ⟨psStyle, psRate, psFallback⟩, ⟨rtStyle, rtRate, rtFallback⟩, rtSize⟩

structure EngineSection where
  start : StartMode
  stop : StopMode
  logLevel : Text
  fifoPath : Text

def readEngine (v : Value) : Except ConfigError EngineSection := do
  let s : Section := ⟨"engine", "EngineConfig", 4, v⟩
  s.check
  let start ← s.setting? 0 "start" readStart
  let stop ← s.setting? 1 "stop" readStop
  let logLevel ← s.setting? 2 "log_level" readText
  let fifoPath ← s.setting? 3 "fifo_path" readText
  let start ← s.require 0 "start" start
  let stop ← s.require 1 "stop" stop
  let logLevel ← s.require 2 "log_level" logLevel
  let fifoPath ← s.require 3 "fifo_path" fifoPath
  return ⟨start, stop, logLevel, fifoPath⟩

/-- The sizes that receivers have for RadioText. -/
def rtSizes : List Nat := [32, 64]

/-- The configuration in a tree of settings, whatever its values. -/
def Configuration.ofValue (v : Value) : Except ConfigError Configuration := do
  let part (name : String) : Except ConfigError Value :=
    match Value.lookup name.toList v.entries with
    | some v => .ok v
    | none => .error (.message ("missing field ".toList ++ ticked name.toList))
  let rdsValue ← part "rds"
  let rds ← readRds rdsValue
  let engineValue ← part "engine"
  let engine ← readEngine engineValue
  return {
    settings := ⟨rds.enabled, ⟨rds.ps, rds.rt⟩, rds.rtSize, engine.start, engine.stop⟩
    logLevel := engine.logLevel
    fifoPath := engine.fifoPath }

/-- The sizes that no receiver has and the rates that no timer can keep are refused. -/
def Configuration.validate (c : Configuration) : Except ConfigError Configuration :=
  if c.settings.rtSize ∉ rtSizes then
    .error (.message ("rds.rt_size must be one of [32, 64], got ".toList
      ++ Decimal.write c.settings.rtSize))
  else if c.settings.services.ps.rate = 0 ∨ c.settings.services.rt.rate = 0 then
    .error (.message "update rates must be at least one second".toList)
  else .ok c

end RadioText.Config
