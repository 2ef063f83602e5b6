import PageHarvest.Replay.Run
import PageHarvest.Scripted.Callback

/-!
Pages that answer from tables, for trying handlers without documents. They note every call, and an
element comes up at the time that its table says.
-/
namespace PageHarvest

/-- An answer to a visit. An absent address stands for the requested one. -/
structure TableResponse where
  status : Option Int := some 200
  url : Option String := none

/-- Tables of a page. The root `""` is the document; times are in milliseconds after the start. -/
structure TablePage where
  responses : List TableResponse := []
  groups : Table String (Table String (List String)) := []
  fields : Table String (Table String (Option String)) := []
  present : Table String (Table String Rat) := []
  giveUpMs : Option Int := none
  blank : String := blankUrl

inductive TableCall where
  | navigate (visit : Visit)
  | wait (selector : String) (timeoutMs : Int) (root : Option String)
  | queryAll (selector : String) (root : Option String)
  | extract (root : Option String) (selector : String) (attr : Option String)

/-- A page with the calls it has seen, newest first. -/
structure TracedPage where
  tables : TablePage
  calls : List TableCall := []
  visits : Nat := 0

structure TableWorld where
  start : Rat
  now : Rat
  sleeps : Nat := 0
  log : List Event := []
  pages : Array TracedPage
  /-- The tables of pages that callbacks open. -/
  second : TablePage
  /-- The results that each callback was called with, newest first. -/
  seen : List (List Item) := []
  /-- What the latest callback left in the records it was given. -/
  left : Option (List Item) := none

namespace TableWorld

def precision : Precision := .double

def pass (seconds : Rat) (w : TableWorld) : TableWorld :=
  { w with now := precision.near (w.now + seconds) }

/-- The page of a reference; there is none to be asked when there is no page. -/
def page (r : PageRef) : Act TableWorld TracedPage := do
  match r with
  | .nothing => Act.fail Cause.noOperation
  | .page n =>
    match (← get).pages[n]? with
    | some p => return p
    | none => Act.fail Cause.noOperation

def setPage (r : PageRef) (p : TracedPage) : Act TableWorld Unit :=
  match r with
  | .nothing => return
  | .page n => modify fun w => { w with pages := w.pages.setIfInBounds n p }

/-- Notes a call and answers the tables of the page. -/
def note (r : PageRef) (c : TableCall) : Act TableWorld TablePage := do
  let p ← page r
  setPage r { p with calls := c :: p.calls }
  return p.tables

/-- The entry of a table of tables, with the document under the empty root. -/
def nested? {α : Type} (t : Table String (Table String α)) (root : Option String) (key : String) :
    Option α :=
  (t.get? (root.getD "")).bind (·.get? key)

/-- The `n`-th answer; the last one stands for all later ones. -/
def answerAt (responses : List TableResponse) (n : Nat) : TableResponse :=
  match responses[n]? with
  | some r => r
  | none => responses.getLast?.getD {}

def navigate (r : PageRef) (visit : Visit) : Act TableWorld PageResponse := do
  let tables ← note r (.navigate visit)
  let p ← page r
  setPage r { p with visits := p.visits + 1 }
  if visit.url == blankUrl then return ⟨none, blankUrl⟩
  else
    let answer := answerAt tables.responses p.visits
    return ⟨answer.status, answer.url.getD visit.url⟩

/-- The wait of a page: how long it is willing to wait when nothing comes up. -/
def patience (tables : TablePage) (timeoutMs : Int) : Int :=
  match tables.giveUpMs with
  | some n => min timeoutMs n
  | none => timeoutMs

def waitFor (r : PageRef) (selector : String) (timeoutMs : Int) (root : Option String) :
    Act TableWorld Unit := do
  let tables ← note r (.wait selector timeoutMs root)
  let w ← get
  let timeout ← Act.ofExcept (precision.seconds timeoutMs)
  let appears := (nested? tables.present root selector).map fun ms =>
    precision.near (w.start + precision.near (ms / 1000))
  match appears with
  | some t =>
    if t ≤ precision.near (w.now + timeout) then
      set { w with now := later w.now t }
      return
  | none => pure ()
  modify (pass (← Act.ofExcept (precision.seconds (patience tables timeoutMs))))
  Act.fail (Cause.waitExpired ("gave up after " ++ toString timeoutMs ++ "ms"))

def queryAll (r : PageRef) (selector : String) (root : Option String) :
    Act TableWorld (List String) := do
  let tables ← note r (.queryAll selector root)
  return (nested? tables.groups root selector).getD []

def extract (r : PageRef) (root : Option String) (selector : String) (attr : Option String) :
    Act TableWorld (Option String) := do
  let tables ← note r (.extract root selector attr)
  let key := match attr with
    | some a => selector ++ "@" ++ a
    | none => selector
  return ((nested? tables.fields root key).getD none)

/-- Table pages never ask anyone about their requests. -/
def interceptionFailure : Failure :=
  Cause.notSupported "FakePage does not support request interception"

/-- Table pages have no document to work on. -/
def refuseEvaluation (r : PageRef) : Act TableWorld Unit := do
  let _ ← page r
  Act.fail (Cause.badType "fake page does not evaluate")

def openSecond : Act TableWorld PageRef := do
  let w ← get
  set { w with pages := w.pages.push ⟨w.second, [], 0⟩ }
  return .page w.pages.size

def tools : PageTools TableWorld where
  append r _ := refuseEvaluation r
  remove r _ := refuseEvaluation r
  visit r url := do
    let _ ← navigate r ⟨url, "GET", .null⟩
  evaluate r _ := refuseEvaluation r
  fresh := openSecond

/-- Calls a callback and notes what it was called with. -/
def call (c : Callback) (r : PageRef) (results : List Item) : Act TableWorld (Answer PageRef) := do
  modify fun w => { w with seen := results :: w.seen, left := some (c.leaves results) }
  c.call tools r results

/-- The address of the blank page of a table page. -/
def blankOf (w : TableWorld) (r : PageRef) : String :=
  match r with
  | .page n => (w.pages[n]?.map (·.tables.blank)).getD blankUrl
  | .nothing => blankUrl

/-- Table pages as the host of a replay; `w` tells which address is blank. -/
def host (w : TableWorld) : Host TableWorld PageRef String Callback where
  blank r :=
    match r with
    | .page 0 => blankOf w r
    | _ => w.second.blank
  navigate := navigate
  waitFor := waitFor
  queryAll := queryAll
  extract := extract
  precision := precision
  now w := w.now
  sleep s w := { pass s w with sleeps := w.sleeps + 1 }
  emit e w := { w with log := e :: w.log }
  call := call
  samePage a b := a == b

end TableWorld

/-- A handler that accepts every step and comes to no state. -/
def Handler.nowhere {W P H C : Type} : Handler W P H C where
  name := "NoneHandler"
  accept _ _ _ := some fun _ => return none

end PageHarvest
