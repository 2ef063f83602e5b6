import PageHarvest.CommandLine.Session
import PageHarvest.Static.Page

/-!
The command line of the library. Pages come from a saved site, the file `site.json`, which maps
addresses to markup; no page is fetched, and there is no browser.
-/
namespace PageHarvest.Main
open CommandLine

/-- The content of a file, if it can be read. -/
def contentOf? (name : String) : IO (Option (List UInt8)) :=
  try return some (← IO.FS.readBinFile name).toList
  catch _ => return none

/-- Variables of the environment that are settings. -/
def environment : IO (Table String String) := do
  let names := ["WAIT_TIMEOUT_MS", "NAVIGATION_TIMEOUT_MS", "POLL_INTERVAL_MS", "USER_AGENT",
    "LOG_LEVEL"].map (Settings.shared ++ ·)
  let found ← names.mapM fun n => return (← IO.getEnv n).map fun v => (n, v)
  return found.filterMap id

/-- The files that a source can mean. -/
def filesFor (s : Source) : IO FileTree := do
  let names := if s.file.isEmpty then Query.endings.map fun e => "queries/" ++ s.id ++ e else [s.file]
  let found ← names.mapM fun n => return (← contentOf? n).map fun bytes => (Path.ofText n, bytes)
  return (found.filterMap id).foldl (fun t (p, bytes) => t.addFile p bytes) {}

def savedSite : IO Site := do
  match (← contentOf? "site.json").map textOf with
  | some (.ok cs) =>
    match Json.read cs with
    | .ok (.map m) => return m.map fun (k, v) => (k.plain, { markup := v.plain })
    | _ => return []
  | _ => return []

/-- The clock, in seconds. -/
def clock : IO Rat := do
  return ((← IO.monoMsNow : Nat) : Rat) / 1000

def freshId : IO String := do
  let digits ← (List.range 32).mapM fun _ => return Text.hexDigits 1 (← IO.rand 0 15)
  return String.ofList digits.flatten

/-- Replays a query on the saved site and shows its events. -/
def replay (least : Nat) (p : Prepared Callback) : IO (Except Failure (List Record)) := do
  let now ← clock
  let w : StaticWorld := { site := ← savedSite, start := now, now := now }
  let (outcome, w) := (p.replay StaticWorld.host (StaticWorld.newPage true) (← freshId)).runOn w
  match Event.shownFrom least w.log.reverse with
  | .ok events =>
    for (label, text) in events do
      IO.eprintln (label ++ " " ++ text)
    return outcome
  | .error f => return .error f

def outside : Outside IO Callback where
  files := filesFor
  call _ := return .error noService
  replay least browser _ p := if browser then return .error noBrowser else replay least p

/-- Prints what a command has to say; the answer is its exit status. -/
def finish (e : Ending) : IO UInt32 := do
  IO.print e.printed
  match e.exit with
  | .ok n => return n.toUInt32
  | .error f =>
    IO.eprintln (f.name ++ ": " ++ f.message)
    return 1

def run (args : List String) : IO UInt32 := do
  let known ← environment
  let vs := Settings.variablesOf (← contentOf? ".env") known known
  finish (← session outside .all args vs)

end PageHarvest.Main

def main (args : List String) : IO UInt32 :=
  PageHarvest.Main.run args
