import PageHarvest.CommandLine.Arguments

/-!
The command line for queries: replaying one here, or having the service replay a stored one.
-/
namespace PageHarvest.CommandLine

/-- The name of a stored query. -/
def queryId (required : Bool) : Switch where
  names := ["--query-id"]
  value := some "QUERY_ID"
  required := required

def queryFile : Switch where
  names := ["--query-file"]
  value := some "QUERY_FILE"

/-- Kinds of pages that a query can be replayed on. -/
def driverNames : List String := ["static", "playwright"]

def driver : Switch where
  names := ["--driver"]
  value := some (choicesShown driverNames)
  choices := driverNames

def headed : Switch where
  names := ["--headed"]
  help := "Show the browser (playwright driver)"

def serviceUrl : Switch where
  names := ["--api-base-url"]
  value := some "API_BASE_URL"
  required := true

/-- The command that replays a query here. -/
def replayCommand : Command where
  name := "run"
  help := "Run a query locally"
  switches := [queryId false, queryFile, driver, headed]

/-- The command that has the service replay one. -/
def callCommand : Command where
  name := "api"
  help := "Run a stored query via the API"
  switches := [queryId true, serviceUrl]

def Program.queries : Program where
  name := "run_query.py"
  about := "Page query helper"
  commands := [replayCommand, callCommand]

/-- A query to replay: a file counts before a name, and what is empty counts as absent. -/
structure Source where
  file : String
  id : String

inductive Task where
  | replay (source : Source) (browser headed : Bool)
  | call (id base : String)

/-- The task of a command with its values. -/
def Task.ofGiven (command : String) (given : Values) : Task :=
  let text (s : Switch) := (given.get? s.key).getD ""
  if command == callCommand.name then call (text (queryId true)) (text serviceUrl)
  else replay ⟨text queryFile, text (queryId false)⟩ (text driver == "playwright") (given.has headed.key)

/-- Arguments that begin with neither a command nor a dash begin with the file of a query. -/
def completed (args : List String) : List String :=
  match args with
  | first :: rest =>
    if Program.queries.commands.any (·.name == first) || first.toList.head? == some '-' then args
    else "run" :: "--query-file" :: first :: rest
  | [] => []

end PageHarvest.CommandLine
