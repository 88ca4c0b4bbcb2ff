import RadioText.Transmitter

/-! What the engine is told to do. -/
namespace RadioText

/-- When the transmitter is brought up: with the player daemon, or with a playlist. -/
inductive StartMode | fppdStart | playlistStart
deriving DecidableEq

/-- When the transmitter is taken down. -/
inductive StopMode | never | playlistStop
deriving DecidableEq

def StartMode.name : StartMode → String
  | fppdStart => "fppd-start"
  | playlistStart => "playlist-start"

def StopMode.name : StopMode → String
  | never => "never"
  | playlistStop => "playlist-stop"

/-- The settings of one service. -/
structure ServiceSettings where
  style : Text
  /-- Seconds from one line to the next. -/
  rate : Nat
  /-- Shown when the style gives no line. -/
  fallback : Text
deriving DecidableEq

structure Settings where
  enabled : Bool
  services : Services ServiceSettings
  rtSize : Nat
  start : StartMode
  stop : StopMode

end RadioText
