import Multiplexer.Json.Writer
import Multiplexer.Session.TargetJson
import Multiplexer.Settings.Basic

/-!
# Settings as JSON

Every field may be missing and then has its default value. The functions that
write take the way to write a double.
-/

namespace Multiplexer

def wordLimit : Nat := Nat.pow 2 64

namespace ReopenPolicy

def ofJson? (j : Json) : Option ReopenPolicy := do
  let f ← j.fields? ["enabled", "maxAttempts", "delayMs"]
  let d : ReopenPolicy := {}
  return {
    enabled := ← f.orDefault "enabled" d.enabled Json.bool?
    maxAttempts := ← f.orDefault "maxAttempts" d.maxAttempts (Json.natBelow (Nat.pow 2 32))
    delayMs := ← f.orDefault "delayMs" d.delayMs (Json.natBelow wordLimit) }

def toJson (p : ReopenPolicy) : Json :=
  .obj [("enabled", .bool p.enabled), ("maxAttempts", .nat p.maxAttempts),
    ("delayMs", .nat p.delayMs)]

end ReopenPolicy

namespace ConnectSettings

def ofJson? (j : Json) : Option ConnectSettings := do
  let f ← j.fields? ["timeoutSecs", "keepaliveIntervalSecs", "keepaliveMax", "promptTimeoutSecs",
    "terminal"]
  let d : ConnectSettings := {}
  let word := Json.natBelow wordLimit
  return {
    timeoutSecs := ← f.orDefault "timeoutSecs" d.timeoutSecs word
    keepaliveIntervalSecs := ← f.orDefault "keepaliveIntervalSecs" d.keepaliveIntervalSecs word
    keepaliveMax := ← f.orDefault "keepaliveMax" d.keepaliveMax word
    promptTimeoutSecs := ← f.orDefault "promptTimeoutSecs" d.promptTimeoutSecs word
    terminal := ← f.orDefault "terminal" d.terminal TerminalSize.ofJson? }

def toJson (s : ConnectSettings) : Json :=
  .obj [("timeoutSecs", .nat s.timeoutSecs),
    ("keepaliveIntervalSecs", .nat s.keepaliveIntervalSecs), ("keepaliveMax", .nat s.keepaliveMax),
    ("promptTimeoutSecs", .nat s.promptTimeoutSecs), ("terminal", s.terminal.toJson)]

end ConnectSettings

namespace LayoutSettings

def ofJson? (j : Json) : Option LayoutSettings := do
  let f ← j.fields? ["defaultSplitRatio", "minRatio", "maxRatio"]
  let d : LayoutSettings := {}
  return {
    defaultSplitRatio := ← f.orDefault "defaultSplitRatio" d.defaultSplitRatio Json.float?
    minRatio := ← f.orDefault "minRatio" d.minRatio Json.float?
    maxRatio := ← f.orDefault "maxRatio" d.maxRatio Json.float? }

def toJson (float : Binary64 → Json) (s : LayoutSettings) : Json :=
  .obj [("defaultSplitRatio", float s.defaultSplitRatio), ("minRatio", float s.minRatio),
    ("maxRatio", float s.maxRatio)]

end LayoutSettings

namespace Profiles

/-- Put a profile under its name, in the place of an earlier one of that name. -/
def insert (name : String) (jumps : List JumpHost) : Profiles → Profiles
  | [] => [(name, jumps)]
  | (n, js) :: rest =>
    if n = name then (name, jumps) :: rest
    else if name < n then (name, jumps) :: (n, js) :: rest
    else (n, js) :: insert name jumps rest

def ofJson? : Json → Option Profiles
  | .object fields =>
    fields.foldlM (fun ps (name, j) => do
      return insert (← name) (← j.listOf JumpHost.ofJson?) ps) []
  | _ => none

def toJson (ps : Profiles) : Json :=
  .obj (ps.map fun (name, jumps) => (name, .array (jumps.map JumpHost.toJson)))

end Profiles

namespace Settings

def ofJson? (j : Json) : Option Settings := do
  let f ← j.fields? ["version", "reconnect", "connect", "layout", "proxyJumpProfiles"]
  return {
    version := ← f.orDefault "version" settingsVersion (Json.natBelow (Nat.pow 2 32))
    reopen := ← f.orDefault "reconnect" {} ReopenPolicy.ofJson?
    connect := ← f.orDefault "connect" {} ConnectSettings.ofJson?
    layout := ← f.orDefault "layout" {} LayoutSettings.ofJson?
    profiles := ← f.orDefault "proxyJumpProfiles" [] Profiles.ofJson? }

def toJson (float : Binary64 → Json) (s : Settings) : Json :=
  .obj [("version", .nat s.version), ("reconnect", s.reopen.toJson),
    ("connect", s.connect.toJson), ("layout", s.layout.toJson float),
    ("proxyJumpProfiles", s.profiles.toJson)]

end Settings

end Multiplexer
