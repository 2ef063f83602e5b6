import PageHarvest.Replay.Host
import PageHarvest.Text.Case

/-!
Callbacks given by a script, for replaying queries without code. A callback says what it does to the
page and to the results, and what it gives back.
-/
namespace PageHarvest

/-- A page that a world knows by number, or no page at all. -/
inductive PageRef where
  | page (number : Nat)
  | nothing
  deriving Repr, DecidableEq

/-- An element to be added to a document. -/
structure NewElement where
  parent : String
  tag : String
  text : Option String
  attrs : Table String String

/-- What a callback can give back besides a pair of the page and the results. -/
inductive AnswerShape where
  | null
  | listOfTwo
  | oneItem
  | threeItems
  | mapping
  | resultsNull
  | resultsNumber
  | resultsTuple
  | pageNull

inductive Callback where
  | keep
  | seed (records : List Item)
  | push (record : Item)
  | clear
  | upper
  /-- Edits the first record in place, so that whoever else holds it sees the edit. -/
  | editFirst
  | append (element : NewElement)
  | remove (selector : String)
  | goto (url : String)
  | newPage (url : Option String)
  | evaluate (source : Value)
  | raise (f : Failure)
  | answer (shape : AnswerShape)

/-- What pages offer to callbacks. -/
structure PageTools (W : Type) where
  append : PageRef → NewElement → Act W Unit
  remove : PageRef → String → Act W Unit
  visit : PageRef → String → Act W Unit
  evaluate : PageRef → Value → Act W Unit
  fresh : Act W PageRef

namespace Callback

/-- The record with its texts in upper case. -/
def upperItem : Item → Item
  | .record r => .record (r.map fun (k, v) =>
      (k, match v with
        | .text s => .text (Text.upper s)
        | v => v))
  | .stray v => .stray v

/-- The results with the mark of an edit in the first record. -/
def editedFirst : List Item → Except Failure (List Item)
  | [] => .error (Cause.outOfRange "list")
  | .record r :: rest => .ok (.record (r.put "edited" (.text "yes")) :: rest)
  | .stray v :: _ =>
    .error (Cause.badType ("'" ++ v.kindName ++ "' object does not support item assignment"))

/-- The results that a callback leaves in the records it was given. -/
def leaves (c : Callback) (results : List Item) : List Item :=
  match c, editedFirst results with
  | editFirst, .ok edited => edited
  | _, _ => results

def pairOf (page : PageRef) (results : List Item) : Answer PageRef :=
  .pair page (.items results)

def shaped (page : PageRef) (results : List Item) : AnswerShape → Answer PageRef
  | .resultsNull => .pair page .absent
  | .resultsNumber => .pair page (.data (.int 5))
  | .resultsTuple => pairOf page results
  | .pageNull => pairOf .nothing results
  | .null | .listOfTwo | .oneItem | .threeItems | .mapping => .other

def call {W : Type} (tools : PageTools W) (c : Callback) (page : PageRef) (results : List Item) :
    Act W (Answer PageRef) :=
  match c with
  | keep => return pairOf page results
  | seed records => return pairOf page (results ++ records)
  | push record => return pairOf page (results ++ [record])
  | clear => return pairOf page []
  | upper => return pairOf page (results.map upperItem)
  | editFirst => do return pairOf page (← Act.ofExcept (editedFirst results))
  | append element => do
    tools.append page element
    return pairOf page results
  | remove selector => do
    tools.remove page selector
    return pairOf page results
  | goto url => do
    tools.visit page url
    return pairOf page results
  | newPage url => do
    let new ← tools.fresh
    match url with
    | some url => tools.visit new url
    | none => pure ()
    return pairOf new results
  | evaluate source => do
    tools.evaluate page source
    return pairOf page results
  | raise f => Act.fail f
  | answer shape => return shaped page results shape

end Callback
end PageHarvest
