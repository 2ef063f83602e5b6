import PageHarvest.Replay.Handler.Basic

/-!
Calling a callback with the page and the results so far. It gives back a pair of a page and results;
the scope is kept when the page is the same one and is the whole document otherwise.
-/
namespace PageHarvest

/-- The items of a value that can be counted and listed. -/
def Value.elements? : Value → Option (List Value)
  | .list items | .tuple items | .set items => some items
  | .map entries => some (entries.map (·.1))
  | .text s => some (s.toList.map fun c => .text (String.singleton c))
  | .bytes bs => some (bs.map fun b => .int b.toNat)
  | _ => none

/-- A value as an item of the results; a mapping with texts for keys is a record. -/
def Item.ofValue : Value → Item
  | .map entries =>
    match entries.mapM fun e => e.1.text?.map fun k => (k, e.2) with
    | some r => .record r
    | none => .stray (.map entries)
  | v => .stray v

namespace Handler
variable {W P H C : Type}

/-- The items of what a callback gave as results. -/
def resultItems : Results → Except Failure (List Item)
  | .absent | .data .null =>
    .error (Cause.invalidPipeline "eval callback must return a (page, results) pair")
  | .items items => .ok items
  | .data v =>
    match v.elements? with
    | some items => .ok (items.map Item.ofValue)
    | none => .error (Cause.badType ("object of type '" ++ v.kindName ++ "' has no len()"))

def evalStep (h : Host W P H C) (callback : C) (s : ReplayState P H) :
    Act W (ReplayState P H) := do
  match ← h.call callback s.page s.results with
  | .other => Act.fail (Cause.invalidPipeline "eval callback must return a (page, results) pair")
  | .pair page results =>
    let items ← Act.ofExcept (resultItems results)
    let same := h.samePage page s.page
    h.log .debug "eval.done" [("results", .int items.length), ("page_replaced", .bool !same)]
    return { s with page, scope := if same then s.scope else .document, results := items }

def eval : Handler W P H C where
  name := "EvalStepHandler"
  accept h _
    | .eval callback => some fun s => some <$> evalStep h callback s
    | _ => none

end Handler
end PageHarvest
