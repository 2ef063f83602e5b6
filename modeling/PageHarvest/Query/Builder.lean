import PageHarvest.Query.Step
import PageHarvest.Text.Blank

/-!
Building queries. A query starts with a visit and grows by one step at a time; each call checks its
arguments and leaves the query it grows from as it was.
-/
namespace PageHarvest

/-- A first visit and the steps after it. -/
structure Query (C : Type) where
  start : Visit
  later : List (Step C)

/-- What a caller passes where a callback is expected. -/
inductive EvalArgument (C : Type) where
  | callback (c : C)
  /-- Something that cannot be called. -/
  | data

namespace Query
variable [Stack] {C : Type}

/-- An address is a text that is not blank. -/
def requireUrl : Value → Except Failure String
  | .text url => if Text.isBlankText url then .error (Cause.invalidQuery "invalid query") else .ok url
  | _ => .error (Cause.invalidQuery "invalid query")

/-- A selector is a text that is not blank; its grammar is left to the page. -/
def requireSelector (v : Value) : Except Failure String :=
  let rejected := Except.error
    (Cause.showing v (.invalidPipeline ("selector must be a non-empty string, got " ++ v.shown)))
  match v with
  | .text selector => if Text.isBlankText selector then rejected else .ok selector
  | _ => rejected

/-- A timeout is absent or a count of milliseconds. -/
def requireTimeout (v : Value) : Except Failure Value :=
  let rejected := Except.error
    (Cause.showing v (.invalidPipeline ("wait_for timeout must be a non-negative int, got " ++ v.shown)))
  match v with
  | .null => .ok .null
  | .int n => if n < 0 then rejected else .ok (.int n)
  | _ => rejected

/-- Whether a value is the word for an allowed method. -/
def requireMethod : Value → Except Failure String
  | .text m => if Visit.methods.contains m then .ok m else .error (Cause.invalidMethod (.text m))
  | v => .error (Cause.showing v (.invalidMethod v))

def startingAt (url method postData : Value) : Except Failure (Query C) := do
  let url ← requireUrl url
  let method ← requireMethod method
  return ⟨⟨url, method, postData⟩, []⟩

def steps (q : Query C) : List (Step C) :=
  .navigate q.start :: q.later

def append (q : Query C) (s : Step C) : Query C :=
  { q with later := q.later ++ [s] }

def go (q : Query C) (url : Value) : Except Failure (Query C) := do
  let url ← requireUrl url
  return q.append (.navigate ⟨url, "GET", .null⟩)

def waitFor (q : Query C) (selector timeoutMs : Value) : Except Failure (Query C) := do
  let selector ← requireSelector selector
  let timeoutMs ← requireTimeout timeoutMs
  return q.append (.waitFor selector timeoutMs)

def groupBy (q : Query C) (selector : Value) : Except Failure (Query C) := do
  let selector ← requireSelector selector
  return q.append (.groupBy selector)

/-- Whether the steps, latest first, hold a selection before the visit or grouping that opened the
present scope. -/
def selectedIn : List (Step C) → Bool
  | [] => false
  | .select _ :: _ => true
  | .navigate _ :: _ => false
  | .groupBy _ :: _ => false
  | _ :: rest => selectedIn rest

/-- A scope is selected from once. -/
def select (q : Query C) (fields : Value) : Except Failure (Query C) := do
  let fields ← Field.ofMapping fields
  if selectedIn q.steps.reverse then .error Field.malformed
  else return q.append (.select fields)

def eval (q : Query C) : EvalArgument C → Except Failure (Query C)
  | .callback c => .ok (q.append (.eval c))
  | .data => .error (Cause.invalidPipeline "eval expects a callable")

/-- A query in brief: its method, its address and the kinds of its steps. -/
def shown (q : Query C) : String :=
  "Query(" ++ q.start.method ++ " " ++ Text.quoted q.start.url ++ ": " ++
    ", ".intercalate (q.steps.map Step.kind) ++ ")"

end Query
end PageHarvest
