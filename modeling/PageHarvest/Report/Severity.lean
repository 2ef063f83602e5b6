import PageHarvest.Failure
import PageHarvest.Report.Logger
import PageHarvest.Text.Case

/-!
Severities, which say what a log store keeps: everything that is at least as severe as its threshold.
-/
namespace PageHarvest

/-- Severities by name. Some are thresholds only, and no event has them. -/
def severities : Table String Nat :=
  [("TRACE", 5), ("DEBUG", 10), ("INFO", 20), ("SUCCESS", 25), ("WARNING", 30), ("ERROR", 40),
    ("CRITICAL", 50)]

def Level.severity : Level → Nat
  | debug => 10
  | info => 20
  | warning => 30
  | error => 40

def Level.label (l : Level) : String :=
  Text.upper l.name

/-- The threshold of a name in any case. -/
def threshold (name : String) : Except Failure Nat :=
  match severities.get? (Text.upper name) with
  | some n => .ok n
  | none => .error (Cause.badValue ("Level '" ++ Text.upper name ++ "' does not exist"))

/-- The labels and texts of the events that a threshold lets through. -/
def Event.shownFrom [Stack] (least : Nat) (events : List Event) :
    Except Failure (List (String × String)) :=
  (events.filter fun e => least ≤ e.level.severity).mapM fun e => do
    return (e.level.label, ← e.text)

end PageHarvest
