import PageHarvest.Query.Field

/-!
Steps of a query. The type of callbacks is a parameter: a query only carries them, and the replay
says what calling one does.
-/
namespace PageHarvest

structure Visit where
  url : String
  method : String
  postData : Value

inductive Step (C : Type) where
  | navigate (visit : Visit)
  /-- Null stands for the timeout of the run. A built query holds a count of milliseconds. -/
  | waitFor (selector : String) (timeoutMs : Value)
  | groupBy (selector : String)
  | select (fields : List Field)
  | eval (callback : C)
  /-- A step that asks for nothing. No query is built with it. -/
  | bare

def Step.kind {C : Type} : Step C → String
  | navigate _ => "NavigateStep"
  | waitFor _ _ => "WaitForStep"
  | groupBy _ => "GroupByStep"
  | select _ => "SelectStep"
  | eval _ => "EvalStep"
  | bare => "Step"

/-- The methods that a query may start with. -/
def Visit.methods : List String := ["GET", "POST"]

end PageHarvest
