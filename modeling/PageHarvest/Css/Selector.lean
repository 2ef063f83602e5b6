import PageHarvest.Text.Direction

/-!
Selectors of elements. A selector is a list of alternatives, each a list of tests that an element
has to pass; a test may hold selectors of its own.
-/
namespace PageHarvest.Css

/-- How two elements of a chain stand to one another. -/
inductive Combinator where
  | descendant
  /-- A descendant in the same frame. -/
  | frameDescendant
  | child
  | adjacent
  | later
  deriving Repr, DecidableEq

/-- What a test asks of the value of an attribute. -/
inductive ValueTest where
  | present
  | equals
  | hasWord
  | dashed
  | startsWith
  | endsWith
  | contains
  deriving Repr, DecidableEq

structure AttrTest where
  name : String
  ask : ValueTest := .present
  value : String := ""
  ignoreCase : Bool := false
  deriving Repr, DecidableEq

/-- Positions among siblings, counted from one: the terms `step · k + offset` for every `k`, or the
single position `offset`. -/
structure Positions where
  step : Int
  offset : Int
  single : Bool
  ofType : Bool := false
  fromEnd : Bool := false
  deriving Repr, DecidableEq

/-- States that an element is in by what stands around it, or by what its values mean. -/
inductive State where
  /-- An element of the markup language's own, whose name has no dash, or one of a name space. -/
  | known
  /-- Bounds are given for the value, and it is beyond them or not. -/
  | bounded (beyond : Bool)
  /-- The first element of its form that submits it. -/
  | firstSubmit
  /-- No other element of its group of choices is checked. -/
  | unchosen
  /-- The language is in one of the ranges. -/
  | speaks (ranges : List String)
  | runs (direction : Text.Direction)
  deriving Repr, DecidableEq

inductive Test where
  /-- The tag, in lower case. -/
  | tag (name : String)
  | id (value : String)
  | word (value : String)
  | attr (test : AttrTest)
  | root
  | scope
  | empty
  /-- Shows no text. -/
  | textless
  | never
  | state (state : State)
  /-- The position among the siblings that pass the alternatives, which the element must pass too. -/
  | nth (positions : Positions) (among : List (List Test))
  | oneOf (alternatives : List (List Test))
  | noneOf (alternatives : List (List Test))
  | tells (own : Bool) (texts : List String)
  /-- An element before or above this one, as the combinator says, passes the tests. -/
  | follows (combinator : Combinator) (tests : List Test)
  /-- An element after or below this one, as the combinator says, passes the tests. -/
  | leads (combinator : Combinator) (tests : List Test)

/-- Tests that one element has to pass together. -/
abbrev Compound := List Test

abbrev Selector := List Compound

end PageHarvest.Css
