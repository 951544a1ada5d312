import Multiplexer.Number.Decimal
import Multiplexer.Session.Target

/-!
# Settings

Bounds for dividers, timeouts of a connection, the policy for reopening serial
lines and the profiles of jump hosts. Layout settings that are out of range are
replaced as a whole by the default ones.
-/

namespace Multiplexer

/-- When and how often a dropped serial session is opened again. -/
structure ReopenPolicy where
  enabled : Bool := true
  maxAttempts : Nat := 3
  delayMs : Nat := 2000
  deriving DecidableEq, Repr

structure ConnectSettings where
  timeoutSecs : Nat := 30
  keepaliveIntervalSecs : Nat := 30
  keepaliveMax : Nat := 3
  promptTimeoutSecs : Nat := 60
  terminal : TerminalSize := {}
  deriving DecidableEq, Repr

structure LayoutSettings where
  defaultSplitRatio : Binary64 := Binary64.half
  /-- Bounds for moving a divider: `0.1` and `0.9`. -/
  minRatio : Binary64 := ⟨0x3fb999999999999a⟩
  maxRatio : Binary64 := ⟨0x3feccccccccccccd⟩
  deriving DecidableEq, Repr

namespace LayoutSettings

/-- The bounds satisfy `0 < min ≤ max < 1`, and the default ratio lies between `0` and `1`. -/
def isValid (s : LayoutSettings) : Bool :=
  Binary64.zero.lt s.minRatio && s.minRatio.le s.maxRatio && s.maxRatio.lt Binary64.one &&
    Binary64.zero.lt s.defaultSplitRatio && s.defaultSplitRatio.lt Binary64.one

/-- The settings themselves if they are valid, and else the default ones. -/
def sanitized (s : LayoutSettings) : LayoutSettings := if s.isValid then s else {}

/-- A divider position within the bounds; a value that is no number gives the default ratio. -/
def clampRatio (s : LayoutSettings) (ratio : Binary64) : Binary64 :=
  let bounds := s.sanitized
  if ratio.isNaN then bounds.defaultSplitRatio
  else if ratio.lt bounds.minRatio then bounds.minRatio
  else if bounds.maxRatio.lt ratio then bounds.maxRatio
  else ratio

end LayoutSettings

/-- Jump hosts by name of profile, in order of the names. -/
abbrev Profiles := List (String × List JumpHost)

def settingsVersion : Nat := 1

structure Settings where
  version : Nat := settingsVersion
  reopen : ReopenPolicy := {}
  connect : ConnectSettings := {}
  layout : LayoutSettings := {}
  profiles : Profiles := []
  deriving DecidableEq, Repr

def Settings.sanitized (s : Settings) : Settings := { s with layout := s.layout.sanitized }

end Multiplexer
