import PageHarvest.Query.Find
import PageHarvest.Report.Logger
import PageHarvest.Replay.Run

/-!
The service's requests and responses. A request names a stored query or holds a definition; a replay
that fails is a response like any other, and only requests without a query are refused.
-/
namespace PageHarvest.Service

/-- What is wrong with a field: where it is, and a word for the fault. -/
structure FieldFault where
  location : List Value
  kind : String

/-- Why a request has no response. -/
inductive Refusal where
  | rejected (status : Nat) (detail : String)
  | malformed (faults : List FieldFault)
  | failed (f : Failure)

/-- The faults of a field that has to be a text. A field that is absent may be left out unless it is
`required`, and null counts as absent only where it is `nullable`. -/
def textFaults (name : String) (required nullable : Bool) : Option Value → List FieldFault
  | some (.text _) => []
  | none => if required then [⟨[.text name], "missing"⟩] else []
  | some .null => if nullable then [] else [⟨[.text name], "string_type"⟩]
  | some _ => [⟨[.text name], "string_type"⟩]

/-- The faults of the list of steps, each of which has to be a mapping. -/
def stepFaults : Option Value → List FieldFault
  | none => []
  | some (.list steps) =>
    steps.zipIdx.filterMap fun (s, index) =>
      match s with
      | .map _ => none
      | _ => some ⟨[.text "steps", .int index], "dict_type"⟩
  | some _ => [⟨[.text "steps"], "list_type"⟩]

/-- The definition in a request; other fields than its own are left out. -/
def definitionOf : Value → Except (List FieldFault) Mapping
  | .map m =>
    let faults := textFaults "url" true false (Mapping.field? m "url") ++
      textFaults "method" false false (Mapping.field? m "method") ++
      textFaults "post_data" false true (Mapping.field? m "post_data") ++ stepFaults (Mapping.field? m "steps")
    if faults.isEmpty then
      .ok [(.text "url", (Mapping.field? m "url").getD .null),
        (.text "method", (Mapping.field? m "method").getD (.text "GET")),
        (.text "post_data", (Mapping.field? m "post_data").getD .null),
        (.text "steps", (Mapping.field? m "steps").getD (.list []))]
    else .error faults
  | _ => .error [⟨[], "model_type"⟩]

variable [Stack] {C : Type}

/-- A definition that is not one is the caller's fault. -/
def accepted (q : Except Failure (Query C)) : Except Refusal (Query C) :=
  q.mapError fun f => if f.cause.isConstruction then .rejected 400 f.message else .failed f

def inlineQuery (body : Value) : Except Refusal (Query C) := do
  let m ← (definitionOf body).mapError .malformed
  accepted (Query.ofMapping m)

def namedQuery (t : FileTree) (id : String) : Except Refusal (Query C) := do
  match ← (Query.findFile t Query.home id).mapError .failed with
  | none => .error (.rejected 404 ("Query not found: " ++ id))
  | some p => accepted (Query.load t p)

/-- What went wrong in a replay. -/
structure ErrorDetail where
  code : String
  message : String
  status : Option Int

/-- A record as an answer holds it: a text for each field, or nothing. -/
abbrev Texts := Table String (Option String)

/-- What a replay is answered with: its records, or what went wrong. -/
structure Response where
  success : Bool
  results : Option (List Texts) := none
  error : Option String := none
  detail : Option ErrorDetail := none

/-- What an answer holds for a value. -/
def textOf? : Value → Option (Option String)
  | .null => some none
  | .text s => some (some s)
  | _ => none

def texts? (r : Record) : Option Texts :=
  r.mapM fun e => (textOf? e.2).map fun t => (e.1, t)

/-- The record that an answer holds. -/
def asRecord (texts : Texts) : Record :=
  texts.map fun e => (e.1, Value.ofText? e.2)

/-- The faults of records that no answer can hold. -/
def resultFaults (rows : List Record) : List FieldFault :=
  rows.zipIdx.flatMap fun (r, index) => r.filterMap fun e =>
    if (textOf? e.2).isSome then none
    else some ⟨[.text "results", .int index, .text e.1], "string_type"⟩

/-- A status as an answer holds it; truth values count as zero and one. -/
def statusNumber? : Value → Option Int
  | .int n => some n
  | .bool b => some (if b then 1 else 0)
  | _ => none

def ErrorDetail.ofFailure (f : Failure) : ErrorDetail where
  code := f.report.code
  message := f.report.message
  status := f.report.status.bind statusNumber?

/-- The answer for what a replay came to. -/
def Response.ofOutcome : Except Failure (List Record) → Except Refusal Response
  | .ok rows =>
    match rows.mapM texts? with
    | some results => .ok { success := true, results := some results }
    | none => .error (.malformed (resultFaults rows))
  | .error f =>
    let detail := ErrorDetail.ofFailure f
    .ok { success := false, error := some detail.message, detail := some detail }

section Execution
variable {W P H : Type} (h : Host W P H C) (settings : Except Failure Defaults)
  (opening : Defaults → Act W P) (runId : String)

/-- Replays a query on a page that is opened for it. Whatever fails from the opening on is answered. -/
def execute (q : Query C) (w : W) : Except Refusal Response × W :=
  match settings with
  | .error f => (.error (.failed f), w)
  | .ok d =>
    let (outcome, w) :=
      (q.replay (h.bind [("url", .text q.start.url)]) d (opening d) runId).runOn w
    (Response.ofOutcome outcome, w)

/-- Replays the query that a request asks for, if it does ask for one. -/
def run (asked : Except Refusal (Query C)) (w : W) : Except Refusal Response × W :=
  match asked with
  | .error refusal => (.error refusal, w)
  | .ok q => execute h settings opening runId q w

def runInline (body : Value) (w : W) : Except Refusal Response × W :=
  run h settings opening runId (inlineQuery body) w

def runNamed (t : FileTree) (id : String) (w : W) : Except Refusal Response × W :=
  run h settings opening runId (namedQuery t id) w

end Execution

/-- The fields of an answer to whether the service runs. -/
def health : Fields := [("status", .text "ok"), ("service", .text "pagequery")]

/-- What the service writes on its console for events of a replay. -/
def consoleText (events : List Event) : Except Failure String := do
  let lines ← events.mapM Event.consoleLine
  return String.join (lines.map (· ++ "\n"))

end PageHarvest.Service
