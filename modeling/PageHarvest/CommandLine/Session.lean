import PageHarvest.CommandLine.Queries
import PageHarvest.Json.Reader
import PageHarvest.Query.Find
import PageHarvest.Replay.Run
import PageHarvest.Report.Severity
import PageHarvest.Settings.Environment

/-!
What a command line does between its start and its end. Files, pages and the service come from
outside.
-/
namespace PageHarvest.CommandLine
variable [Stack]

/-- Where texts are printed. A text that it has no form for is refused, with a message. -/
structure Console where
  refusal? : String → Option String

/-- A console that takes every text. -/
def Console.all : Console := ⟨fun _ => none⟩

/-- What a command does with the texts that it has printed. -/
abbrev Printing := Act (List String)

def unprintable (message : String) : Failure :=
  Cause.outside (.mk "UnicodeEncodeError") message [.badValue]

def Console.print (c : Console) (text : String) : Printing Unit :=
  match c.refusal? text with
  | some message => Act.fail (unprintable message)
  | none => modify (· ++ [text])

/-- How a command comes to its end. -/
inductive Close where
  | returned (status : Nat)
  /-- An error is told in a last line. -/
  | told (message : String)
  /-- A failure that nobody tells of. -/
  | raised (f : Failure)

def errorLine (message : String) : String := "ERROR: " ++ message ++ "\n"

/-- How a command ends: the texts that it has printed, and what comes after them. -/
structure Ending where
  texts : List String
  close : Close

namespace Ending

def printed (e : Ending) : String :=
  let last := match e.close with
    | .told message => [errorLine message]
    | _ => []
  String.join (e.texts ++ last)

/-- The exit status, unless a failure ends the command. -/
def exit (e : Ending) : Except Failure Nat :=
  match e.close with
  | .returned status => .ok status
  | .told _ => .ok 1
  | .raised f => .error f

end Ending

/-- What is told of a failure: unusable values and failures of the transport are. -/
def errorMessage? (f : Failure) : Option String :=
  if f.cause.isBadValue then some f.message
  else if f.cause.isTransport then some ("request failed: " ++ f.message)
  else none

def failedLine (f : Failure) : String :=
  "\nFAILED (" ++ f.name ++ "): " ++ f.message ++ "\n"

namespace Console
variable (c : Console)

def close (f : Failure) : Close :=
  match errorMessage? f with
  | none => .raised f
  | some message =>
    match c.refusal? (errorLine message) with
    | none => .told message
    | some refusal => .raised (unprintable refusal)

/-- The ending of a task. -/
def ending (task : Except Failure Nat × List String) : Ending where
  texts := task.2
  close := match task.1 with
    | .ok status => .returned status
    | .error f => c.close f

def printValue (v : Value) : Printing Unit := do
  c.print ((← Act.ofExcept (Json.indented v)) ++ "\n")

def printOutcome : Except Failure (List Record) → Printing Nat
  | .ok records => do
    c.printValue (.list (records.map Fields.value))
    return 0
  | .error f => do
    if f.cause.isQueryError then
      c.print (failedLine f)
      return 1
    else Act.fail f

/-- Prints what a call of the service has come to: the status and text of its reply. -/
def printReply : Except Failure (Int × String) → Printing Nat
  | .error f => Act.fail f
  | .ok (status, text) => do
    c.print ("Status: " ++ toString status ++ "\n")
    match Json.read text.toList with
    | .error fault => Act.fail (fault.cause text.toList)
    | .ok v =>
      c.printValue v
      if 400 ≤ status then return 1
      match v with
      | .map m => return if ((Mapping.field? m "success").getD .null).isEmpty then 1 else 0
      | _ => Act.fail Cause.noOperation

end Console

def Source.path (t : FileTree) (s : Source) : Except Failure Path := do
  if !s.file.isEmpty then return Path.ofText s.file
  if s.id.isEmpty then .error (Cause.badValue "query-file or query-id is required")
  match ← Query.findFile t Query.home s.id with
  | some p => return p
  | none => .error (Cause.badValue ("Query file not found: " ++ s.id))

variable {C : Type}

def Source.query (t : FileTree) (s : Source) : Except Failure (Query C) := do
  let p ← s.path t
  (Query.load t p).mapError fun f =>
    if f.cause.isConstruction then Cause.badValue ("Failed to load query: " ++ f.message) else f

/-- What is told about a query before it is replayed. -/
def announcement (q : Query C) : List String :=
  ["Query: " ++ q.start.method ++ " " ++ q.start.url ++ "\n", "Steps: " ++ toString q.steps.length ++ "\n"]

/-- A query to replay, with the settings for it. -/
structure Prepared (C : Type) where
  query : Query C
  defaults : Defaults

/-- Gets a query, which is announced, and settings. -/
def prepare (c : Console) (t : FileTree) (vs : Settings.Variables) (s : Source) : Printing (Prepared C) := do
  let query ← Act.ofExcept (s.query t)
  (announcement query).forM c.print
  let defaults ← Act.ofExcept (Settings.defaults vs)
  return { query, defaults }

/-- The address at which the service at `base` replays a query. -/
def callUrl (base id : String) : String :=
  String.ofList (base.toList.reverse.dropWhile (· == '/')).reverse ++ "/queries/" ++ id ++ "/run"

/-- How many seconds a call of the service may take. -/
def callSeconds : Nat := 30

/-- What a command line comes to. The number is the severity from which events are shown. -/
inductive Start where
  | over (e : Ending)
  | replay (least : Nat) (source : Source) (browser headed : Bool)
  | call (url : String)

/-- Reads a command line and the settings that hold for every task. -/
def start (c : Console) (args : List String) (vs : Except Failure Settings.Variables) : Start :=
  match Program.queries.read (completed args) with
  | .refused => .over ⟨[], .returned 2⟩
  | .help text asked =>
    match (c.print text).runOn [] with
    | (.error f, texts) => .over ⟨texts, .raised f⟩
    | (.ok _, texts) => .over ⟨texts, .returned (if asked then 0 else 1)⟩
  | .command name given =>
    match vs.bind fun vs => threshold (Settings.logLevel vs) with
    | .error f => .over ⟨[], c.close f⟩
    | .ok least =>
      match Task.ofGiven name given with
      | .call id base => .call (callUrl base id)
      | .replay source browser headed => .replay least source browser headed

/-- What a command line needs from outside. -/
structure Outside (m : Type → Type) (C : Type) where
  /-- The files that a source can mean. -/
  files : Source → m FileTree
  /-- Calls the service at an address; the answer is the status and text of its reply. -/
  call : String → m (Except Failure (Int × String))
  /-- Replays a query and shows its events from a severity on. -/
  replay : (least : Nat) → (browser headed : Bool) → Prepared C → m (Except Failure (List Record))

def noService : Failure := Cause.transport .connection "no network"

def noBrowser : Failure := Cause.notSupported "no browser"

/-- The outcome of a query on a page that is opened for it. -/
def Prepared.replay {W P H : Type} (h : Host W P H C) (opening : Defaults → Act W P) (runId : String)
    (p : Prepared C) : Act W (List Record) :=
  p.query.replay h p.defaults (opening p.defaults) runId

/-- Outside there are files and pages, and neither a service nor a browser. -/
def Outside.ofPages {W P H : Type} (h : Host W P H C) (opening : Defaults → Act W P) (runId : String)
    (t : FileTree) : Outside (StateM W) C where
  files _ := return t
  call _ := return .error noService
  replay _ browser _ p := if browser then return .error noBrowser else (p.replay h opening runId).runOn

/-- All that a command line does. -/
def session {m : Type → Type} [Monad m] (o : Outside m C) (c : Console) (args : List String)
    (vs : Except Failure Settings.Variables) : m Ending := do
  match start c args vs with
  | .over e => return e
  | .call url => return c.ending ((c.printReply (← o.call url)).runOn [])
  | .replay least source browser headed =>
    match (prepare c (← o.files source) (vs.toOption.getD []) source).runOn [] with
    | (.error f, texts) => return ⟨texts, c.close f⟩
    | (.ok p, texts) => return c.ending ((c.printOutcome (← o.replay least browser headed p)).runOn texts)

end PageHarvest.CommandLine
