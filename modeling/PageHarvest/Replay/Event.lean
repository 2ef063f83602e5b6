import PageHarvest.Data.Value

/-!
Events that a replay reports, with their levels and fields.
-/
namespace PageHarvest

inductive Level where
  | debug
  | info
  | warning
  | error
  deriving Repr, DecidableEq

def Level.name : Level → String
  | debug => "debug"
  | info => "info"
  | warning => "warning"
  | error => "error"

/-- Fields of an event by name. -/
abbrev Fields := Table String Value

structure Event where
  level : Level
  name : String
  fields : Fields

end PageHarvest
