import PageHarvest.Failure
import PageHarvest.Json.Writer
import PageHarvest.Replay.Event

/-!
Loggers, which turn events into lines for people and into records for a log store. A logger carries
fields that it puts before those of each event; an event's own field wins in place. How deep groups
of loggers may lie within one another before the stack is used up is not modelled.
-/
namespace PageHarvest
variable [Stack]

/-- What a logger writes. -/
inductive LogEntry where
  | line (text : String)
  /-- A record in a log store; its own fields stand apart from its message. -/
  | stored (level : Level) (message : String) (fields : Fields)

inductive Logger where
  | console (bound : Fields)
  | store (bound : Fields)
  /-- Several loggers, each of which gets every event. -/
  | group (members : List Logger)
  deriving Inhabited

def Fields.value (fields : Fields) : Value :=
  .map (fields.map fun (k, v) => (.text k, v))

/-- An event's name and its fields, if these can be written. -/
def Event.text (e : Event) : Except Failure String := do
  return e.name ++ " " ++ (← Json.line e.fields.value)

/-- An event as a line of the console, with its type and level unless it has fields of these names. -/
def Event.consoleLine (e : Event) : Except Failure String :=
  { e with
    fields := (e.fields.putNew "type" (.text e.name)).putNew "level" (.text e.level.name) : Event }.text

/-- Names that the call to a log store uses for something else, each with what it then says. -/
def storeNames : List (String × String) :=
  [("event", "loguru._logger.Logger.bind() got multiple values for keyword argument 'event'"),
    ("_Logger__self", "Logger.bind() got multiple values for argument '_Logger__self'")]

/-- An event as a record of a log store, which keeps the event's name among the fields. -/
def Event.record (e : Event) : Except Failure LogEntry :=
  match storeNames.find? fun reserved => e.fields.has reserved.1 with
  | some (_, complaint) => .error (Cause.badType complaint)
  | none => do return .stored e.level (← e.text) (("event", .text e.name) :: e.fields)

/-- What comes of an event: the entries that were written, and the failure that ended the writing if
one did. -/
structure Written where
  entries : List LogEntry
  failure : Option Failure

namespace Written

def nothing : Written := ⟨[], none⟩

/-- What comes of an event at one place. -/
def once : Except Failure LogEntry → Written
  | .ok entry => ⟨[entry], none⟩
  | .error f => ⟨[], some f⟩

/-- What comes of an event at one place and then at another, which a failure keeps it from. -/
def andThen (first next : Written) : Written :=
  match first.failure with
  | some _ => first
  | none => ⟨first.entries ++ next.entries, next.failure⟩

end Written

namespace Logger

def kind : Logger → String
  | console _ => "ConsoleLogger"
  | store _ => "LoguruLogger"
  | group _ => "CompositeLogger"

/-- What a call says of a field whose name it uses for something else. -/
def refusal (call name : String) (l : Logger) : Failure :=
  Cause.badType (l.kind ++ "." ++ call ++ "() got multiple values for argument '" ++ name ++ "'")

/-- Refuses the first field whose name a call uses for something else. -/
def refuse (call : String) (names : List String) (fields : Fields) (l : Logger) :
    Except Failure Unit :=
  match fields.find? fun f => names.contains f.1 with
  | some (name, _) => .error (l.refusal call name)
  | none => .ok ()

mutual

/-- The logger that also carries `fields`, whatever their names. -/
def carry (fields : Fields) : Logger → Logger
  | console bound => console (bound.update fields)
  | store bound => store (bound.update fields)
  | group members => group (carryAll fields members)

def carryAll (fields : Fields) : List Logger → List Logger
  | [] => []
  | l :: rest => carry fields l :: carryAll fields rest

end

/-- The logger that also carries `fields`. -/
def bind (fields : Fields) (l : Logger) : Except Failure Logger := do
  l.refuse "bind" ["self"] fields
  return l.carry fields

mutual

/-- What a logger writes for an event, whatever the names of its fields. -/
def entries (e : Event) : Logger → Written
  | console bound => .once (.line <$> { e with fields := bound.update e.fields : Event }.consoleLine)
  | store bound => .once { e with fields := bound.update e.fields : Event }.record
  | group members => entriesAll e members

def entriesAll (e : Event) : List Logger → Written
  | [] => .nothing
  | l :: rest => (entries e l).andThen (entriesAll e rest)

end

/-- What a logger writes for an event that it is called with. -/
def write (e : Event) (l : Logger) : Written :=
  match l.refuse e.level.name ["self", "event"] e.fields with
  | .error f => ⟨[], some f⟩
  | .ok _ => l.entries e

end Logger
end PageHarvest
