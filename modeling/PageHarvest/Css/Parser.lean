import PageHarvest.Css.Named
import PageHarvest.Css.Token
import PageHarvest.Failure

/-!
Selectors from their text. Selector lists nest in parentheses; the lists that are open at a token are
kept on a stack, innermost first, so that reading is one pass over the tokens. How many lists may be open
and how many compounds may follow one another, before the calls that read and match them are too deep, is
left out.
-/
namespace PageHarvest.Css

/-- What an open selector list is for. -/
inductive ListKind where
  | whole
  | oneOf
  /-- One of several, where empty places are allowed and match nothing. -/
  | oneOfForgiving
  | noneOf
  | leads
  | among (positions : Positions)
  | ignored
  deriving DecidableEq

/-- A selector list that is being read. -/
structure OpenList where
  kind : ListKind
  /-- Finished selectors, last first. -/
  finished : List Compound := []
  tests : Compound := []
  /-- Whether the compound being read has begun. -/
  begun : Bool := false
  /-- What the compound being read has to follow. -/
  before : Option Test := none
  /-- Links of a chain that leads on from the element, last first. -/
  links : List (Combinator × Compound) := []
  /-- The combinator that the next link begins with. -/
  lead : Combinator := .descendant

def malformed : Failure := Cause.selectorSyntax

/-- The failure of a code that no character has. -/
def noCharacter : Failure := Cause.badValue "chr() arg not in range(0x110000)"

namespace OpenList

def add (o : OpenList) (tests : List Test) : OpenList :=
  { o with tests := o.tests ++ tests, begun := true }

/-- The compound being read, with what it follows. -/
def compound (o : OpenList) : Compound :=
  o.tests ++ o.before.toList

/-- The compound that leads on through all links. -/
def chain (o : OpenList) : Compound :=
  ((o.lead, o.tests) :: o.links).foldl (fun inner (c, ts) => [.leads c (ts ++ inner)]) []

/-- Begins a new compound after a combinator or a comma. -/
def next (o : OpenList) : OpenList :=
  { o with tests := [], begun := false, before := none }

/-- The list after a combinator or a comma. -/
def separate (o : OpenList) (c : Option Combinator) : Except Failure OpenList :=
  if o.kind == .leads then
    match c with
    | none =>
      .ok { o.next with finished := o.chain :: o.finished, links := [], lead := .descendant }
    | some c =>
      if o.begun then .ok { o.next with links := (o.lead, o.tests) :: o.links, lead := c }
      else if o.lead == .descendant then .ok { o.next with lead := c }
      else .error malformed
  else if o.begun then
    match c with
    | none => .ok { o.next with finished := o.compound :: o.finished }
    | some c => .ok { o.next with before := some (.follows c o.compound) }
  else if o.kind == .oneOfForgiving && c.isNone then
    .ok { o.next with finished := [.never] :: o.finished }
  else .error malformed

def selector (o : OpenList) : Except Failure Selector :=
  if o.begun then
    .ok ((if o.kind == .leads then o.chain else o.compound) :: o.finished).reverse
  else if o.kind == .oneOfForgiving && (o.finished.isEmpty || o.before.isNone) then
    .ok ([.never] :: o.finished).reverse
  else .error malformed

/-- The test that a list makes for the element it was opened on. -/
def test (o : OpenList) : Except Failure Test := do
  let s ← o.selector
  match o.kind with
  | .whole | .oneOf | .oneOfForgiving | .leads => return .oneOf s
  | .noneOf => return .noneOf s
  | .among p => return .nth p s
  | .ignored => return .never

end OpenList

/-- The kind of list that a name opens. -/
def opened? (name : String) : Option ListKind :=
  match name with
  | "is" | "where" => some .oneOfForgiving
  | "matches" | "contains" | "-soup-contains" | "-soup-contains-own" => some .oneOf
  | "not" => some .noneOf
  | "has" => some .leads
  | "current" | "host" | "host-context" => some .ignored
  | _ => none

/-- The tests of a tag. No document declares name spaces, so that only `*` names one. -/
def tagTests (space : Option String) (name : String) : List Test :=
  match space with
  | none | some "*" => if name == "*" then [] else [.tag name]
  | some _ => [.never]

/-- Reads tokens with the innermost open list and those around it. -/
def readFrom (o : OpenList) (outer : List OpenList) : List Token → Except Failure Selector
  | [] => if outer.isEmpty then o.selector else .error malformed
  | t :: rest =>
    match t with
    | .close =>
      match outer with
      | [] => .error malformed
      | around :: outer => do readFrom (around.add [← o.test]) outer rest
    | .tells own texts => readFrom (o.add [.tells own texts]) outer rest
    | .nth p among =>
      if among then readFrom { kind := .among p } (o :: outer) rest
      else readFrom (o.add [.nth p []]) outer rest
    | .named name opens =>
      if opens then
        match opened? name with
        | some kind => readFrom { kind } (o :: outer) rest
        | none => .error malformed
      else
        match Named.tests? name with
        | some tests => readFrom (o.add tests) outer rest
        | none => .error malformed
    | .state s => readFrom (o.add [.state s]) outer rest
    | .pseudoElement position =>
      .error (Cause.notSupported ("Pseudo-element found at position " ++ toString position))
    | .atRule position =>
      .error (Cause.notSupported ("At-rules found at position " ++ toString position))
    | .nesting => readFrom (o.add [.scope]) outer rest
    | .id value => readFrom (o.add [.id value]) outer rest
    | .word value => readFrom (o.add [.word value]) outer rest
    | .tag space name =>
      if o.begun then .error malformed
      else readFrom (o.add (tagTests space name)) outer rest
    | .attr test negated =>
      readFrom (o.add [if negated then .noneOf [[.attr test]] else .attr test]) outer rest
    | .between c => do readFrom (← o.separate c) outer rest
    | .beyond tag => .error (if tag && o.begun then malformed else noCharacter)
    | .malformed => .error malformed

def read (text : String) : Except Failure Selector :=
  readFrom { kind := .whole } [] (tokens text)

end PageHarvest.Css
