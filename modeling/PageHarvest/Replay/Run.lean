import PageHarvest.Query.Builder
import PageHarvest.Replay.Handler.Eval
import PageHarvest.Replay.Handler.Group
import PageHarvest.Replay.Handler.Navigate
import PageHarvest.Replay.Handler.Select
import PageHarvest.Replay.Handler.Wait

/-!
Replaying steps in order. The first step that fails ends the run with its failure, and a run without
a selection has no results to give.
-/
namespace PageHarvest
variable {W P H C : Type}

/-- A handler for each kind of step. -/
def Handler.standard : List (Handler W P H C) :=
  [.navigate, .waitFor, .groupBy, .select, .eval]

namespace Replay

/-- The first handler that accepts a step, with what it does. -/
def findHandler (handlers : List (Handler W P H C)) (h : Host W P H C) (d : Defaults)
    (s : Step C) : Option (String × (ReplayState P H → Act W (Option (ReplayState P H)))) :=
  handlers.findSome? fun k => (k.accept h d s).map fun go => (k.name, go)

def stepFields (index : Nat) (s : Step C) : Fields :=
  [("step_index", .int index), ("step_type", .text s.kind)]

/-- Lets a handler do a step; a failure is reported before it goes on. -/
def guarded (h : Host W P H C) (index : Nat) (s : Step C) (act : Act W (Option (ReplayState P H))) :
    Act W (Option (ReplayState P H)) := do
  match ← Act.outcome act with
  | .ok state => return state
  | .error f =>
    h.log .error "step.failed"
      (stepFields index s ++ [("error_type", .text f.name), ("error", .text f.message)])
    Act.fail f

def runStep (h : Host W P H C) (d : Defaults) (handlers : List (Handler W P H C)) (index : Nat)
    (s : Step C) (state : ReplayState P H) : Act W (ReplayState P H) := do
  match findHandler handlers h d s with
  | none => Act.fail (Cause.internal ("No handler found for step: " ++ s.kind))
  | some (handlerName, go) =>
    h.log .info "step.start" (stepFields index s)
    let since ← h.time
    match ← guarded h index s (go state) with
    | none =>
      Act.fail (Cause.internal ("Handler returned None: handler=" ++ handlerName ++ ", step=" ++
        toString index ++ " (" ++ s.kind ++ ")"))
    | some next =>
      h.log .info "step.end" (stepFields index s ++ [("scope", .text next.scope.kind),
        ("roots", .int next.scope.roots.length),
        ("elapsed_ms", .int (h.precision.elapsedMs since (← h.time)))])
      return next

/-- Replays steps in order, counting from `index`. -/
def runSteps (h : Host W P H C) (d : Defaults) (handlers : List (Handler W P H C)) (index : Nat) :
    List (Step C) → ReplayState P H → Act W (ReplayState P H)
  | [], state => return state
  | s :: rest, state => do
    let next ← runStep h d handlers index s state
    runSteps h d handlers (index + 1) rest next

/-- Entries of a record from a value that lists them as pairs. -/
def pairEntry (index : Nat) (v : Value) : Except Failure (Value × Value) :=
  match v.elements? with
  | some [k, a] =>
    if k.isKey then .ok (k, a)
    else .error (Cause.badType ("unhashable type: '" ++ k.kindName ++ "'"))
  | some items =>
    .error (Cause.badValue ("dictionary update sequence element #" ++ toString index ++
      " has length " ++ toString items.length ++ "; 2 is required"))
  | none =>
    .error (Cause.badType ("cannot convert dictionary update sequence element #" ++ toString index ++
      " to a sequence"))

/-- A record that a result stands for. -/
def handOver : Item → Except Failure Record
  | .record r => .ok r
  | .stray (.map entries) => .ok (entries.map fun e => (e.1.plain, e.2))
  | .stray v =>
    match v.elements? with
    | none => .error (Cause.badType ("'" ++ v.kindName ++ "' object is not iterable"))
    | some items => do
      let entries ← items.zipIdx.mapM fun (item, index) => pairEntry index item
      return Table.ofEntries (entries.map fun e => (e.1.plain, e.2))

/-- Replays a list of steps on a page and hands over the records. -/
def execute (h : Host W P H C) (d : Defaults) (handlers : List (Handler W P H C))
    (steps : List (Step C)) (page : P) (runId : String) : Act W (List Record) := do
  let h := h.bind [("run_id", .text runId)]
  h.log .info "query.start" [("steps", .int steps.length)]
  let since ← h.time
  let final ← runSteps h d handlers 0 steps (.initial page)
  if final.selectsRun == 0 then
    h.log .error "query.no_select" [("steps", .int steps.length)]
    Act.fail Cause.noResults
  else
    h.log .info "query.end" [("records", .int final.results.length),
      ("elapsed_ms", .int (h.precision.elapsedMs since (← h.time)))]
    Act.ofExcept (final.results.mapM handOver)

end Replay

/-- Replays a query on a page that is opened for it. -/
def Query.replay (h : Host W P H C) (d : Defaults) (q : Query C) (opening : Act W P) (runId : String) :
    Act W (List Record) := do
  Replay.execute h d Handler.standard q.steps (← opening) runId

end PageHarvest
