import PageHarvest.Files.Tree
import PageHarvest.Replay.Host
import PageHarvest.Settings.Bindings
import PageHarvest.Text.Case
import PageHarvest.Text.Digit

/-!
Settings from variables that share one beginning. A file of bindings counts before the environment, and
a name that the file mentions without a value hides the variable of the environment.
-/
namespace PageHarvest.Settings

/-- What the names of all settings begin with. -/
def shared : String := "PAGEQUERY_"

/-- Values of settings by their full names. -/
abbrev Variables := Table String String

/-- The variables of a file, if there is one, and of the environment. -/
def merged (file : Option Bindings) (environment : Table String String) : Variables :=
  let known := (environment.map fun (k, v) => (k, some v)).foldl
    (fun (t : Bindings) e => t.putNew e.1 e.2) (file.getD [])
  known.filterMap fun (k, v) =>
    if shared.toList.isPrefixOf k.toList then v.map fun v => (k, v) else none

/-- The variables with a file of bindings in bytes, which may use those of the process. -/
def variablesOf (file : Option (List UInt8)) (environment process : Table String String) :
    Except Failure Variables := do
  match file with
  | none => return merged none environment
  | some bytes => return merged (some (Bindings.ofText process (← textOf bytes))) environment

/-- A whole number under a name; blank values count as missing. -/
def number (vs : Variables) (name : String) (missing : Int) : Except Failure Int :=
  match vs.get? (shared ++ name) with
  | none => .ok missing
  | some v =>
    if Text.isBlankText v then .ok missing
    else match Text.integer? v with
      | some n => .ok n
      | none =>
        .error (Cause.badValue (shared ++ name ++ " must be an integer, got " ++ Text.quoted v))

def defaults (vs : Variables) : Except Failure Defaults := do
  let base : Defaults := {}
  return {
    waitTimeoutMs := ← number vs "WAIT_TIMEOUT_MS" base.waitTimeoutMs
    navigationTimeoutMs := ← number vs "NAVIGATION_TIMEOUT_MS" base.navigationTimeoutMs
    pollIntervalMs := ← number vs "POLL_INTERVAL_MS" base.pollIntervalMs
    userAgent := (vs.get? (shared ++ "USER_AGENT")).getD base.userAgent }

/-- The least level of events to show, in upper case. -/
def logLevel (vs : Variables) : String :=
  Text.upper ((vs.get? (shared ++ "LOG_LEVEL")).getD "INFO")

end PageHarvest.Settings
