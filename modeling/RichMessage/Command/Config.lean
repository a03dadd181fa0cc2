import RichMessage.Session.Basic

set_option autoImplicit false

namespace RichMessage.Command

structure Config where
  /-- The theme of panels that are made from nothing. -/
  theme : Option String := none
  historyLimit : UInt64 := UInt64.ofNat History.defaultLimit
  /-- Whether results are indented. -/
  pretty : Bool := true
  deriving Repr, DecidableEq

namespace Config

def fileName : String := "flexcraft.config.json"

def read? (w : Written) : Option Config := do
  let fields ← w.record? ["themeColor", "historyLimit", "pretty"]
  let theme ← Written.optional? fields "themeColor" Written.str?
  let historyLimit ← Written.defaulted? fields "historyLimit"
    (UInt64.ofNat History.defaultLimit) Written.word?
  let pretty ← Written.defaulted? fields "pretty" true Written.bool?
  return { theme, historyLimit, pretty }

def options (config : Config) : SessionOptions :=
  { historyLimit := config.historyLimit, theme := config.theme }

/-- How results are laid out. -/
def layout (config : Config) : Json.Layout :=
  if config.pretty then .indented else .compact

end Config

end RichMessage.Command
