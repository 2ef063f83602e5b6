import PageHarvest.Data.Order
import PageHarvest.Query.Builder

/-!
Queries from definitions: a mapping with an address and a list of steps, each a mapping with exactly
one of the step keys. Every step goes through the builder, so its failures come through unchanged.
-/
namespace PageHarvest.Query
variable [Stack] {C : Type}

/-- The keys that say what a step does. -/
def stepKeys : List String := ["go", "wait_for", "group_by", "select"]

/-- The failure of a step without exactly one step key. It lists the keys that are there, which
fails in its own way when they have no order or cannot be shown. -/
def ambiguousStep (index : Nat) (m : Mapping) : Failure :=
  match Value.sorted? (m.map (·.1)) with
  | .error message => Cause.badType message
  | .ok keys =>
    Cause.showing (.list keys) (.unloadable ("step " ++ toString index ++
      " must have exactly one of " ++ ", ".intercalate stepKeys ++ ": " ++ (Value.list keys).shown))

/-- The step keys of a mapping with their values. -/
def choices (m : Mapping) : List (String × Value) :=
  stepKeys.filterMap fun k => (m.field? k).map fun v => (k, v)

/-- Grows a query by the step that a key stands for. -/
def applyKey (q : Query C) (m : Mapping) (v : Value) : String → Except Failure (Query C)
  | "go" => q.go v
  | "wait_for" => q.waitFor v ((m.field? "timeout_ms").getD .null)
  | "group_by" => q.groupBy v
  | _ => q.select v

def applyStep (q : Query C) (index : Nat) : Value → Except Failure (Query C)
  | .map m =>
    match choices m with
    | [(key, v)] => q.applyKey m v key
    | _ => .error (ambiguousStep index m)
  | _ => .error (Cause.unloadable ("step " ++ toString index ++ " must be a mapping"))

/-- Applies steps in order, counting from `index`. -/
def applySteps (q : Query C) (index : Nat) : List Value → Except Failure (Query C)
  | [] => .ok q
  | s :: rest => do
    let q ← q.applyStep index s
    applySteps q (index + 1) rest

/-- The query of a definition. Steps that count as nothing are no steps. -/
def ofMapping (m : Mapping) : Except Failure (Query C) := do
  let q ← startingAt ((m.field? "url").getD .null) ((m.field? "method").getD (.text "GET"))
    ((m.field? "post_data").getD .null)
  match (m.field? "steps").getD .null with
  | .list steps => q.applySteps 0 steps
  | v => if v.isEmpty then .ok q else .error (Cause.unloadable "steps must be a list")

/-- A value as a definition; `none` when it is no mapping. -/
def ofValue? : Value → Option (Except Failure (Query C))
  | .map m => some (ofMapping m)
  | _ => none

end PageHarvest.Query
