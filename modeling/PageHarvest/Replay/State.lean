import PageHarvest.Data.Value

/-!
What a replay carries from step to step: the page, the scope, and the records so far.
-/
namespace PageHarvest

/-- Values by field name. -/
abbrev Record := Table String Value

/-- Something in the list of results. Callbacks can put other things than records there, which are
found out when the results are handed over. -/
inductive Item where
  | record (r : Record)
  | stray (v : Value)

/-- Where steps look: the whole document, or the elements of the latest grouping. -/
inductive Scope (H : Type) where
  | document
  | grouped (handles : List H)

namespace Scope
variable {H : Type}

/-- The roots of a scope; `none` stands for the whole document. -/
def roots : Scope H → List (Option H)
  | document => [none]
  | grouped handles => handles.map some

def kind : Scope H → String
  | document => "document"
  | grouped _ => "grouped"

def isDocument : Scope H → Bool
  | document => true
  | grouped _ => false

end Scope

structure ReplayState (P H : Type) where
  page : P
  scope : Scope H
  results : List Item
  selectsRun : Nat

namespace ReplayState
variable {P H : Type}

def initial (page : P) : ReplayState P H :=
  ⟨page, .document, [], 0⟩

def withScope (s : ReplayState P H) (scope : Scope H) : ReplayState P H :=
  { s with scope }

/-- Adds the records of one selection. -/
def withRecords (s : ReplayState P H) (records : List Record) : ReplayState P H :=
  { s with results := s.results ++ records.map .record, selectsRun := s.selectsRun + 1 }

end ReplayState
end PageHarvest
