/-!
Room on the stack. Whatever goes down a value level by level needs some, and how much is left for it
depends on the calls that are under way.
-/
namespace PageHarvest

/-- How many levels of a value there is room for, by what is done with it. -/
class Stack where
  /-- Lists and mappings within one another that are read from JSON. -/
  json : Nat
  /-- Sequences and mappings within one another that are read from YAML. -/
  yaml : Nat
  /-- Values within one another that are shown. -/
  shown : Nat
  /-- Lists and mappings within one another that are written as JSON. -/
  written : Nat
  /-- Fewer calls are under way when a value is shown than when it was read. -/
  json_lt_shown : json < shown := by decide
  /-- There is always room for a list of records. -/
  two_le_written : 2 ≤ written := by decide

/-- The room of a program that has made a few calls out of a thousand. -/
instance (priority := low) Stack.usual : Stack where
  json := 990
  yaml := 490
  shown := 992
  written := 990

end PageHarvest
