import PageHarvest.Css.Match
import PageHarvest.Fetch.Interception
import PageHarvest.Html.Document
import PageHarvest.Replay.Act
import PageHarvest.Replay.Clock
import PageHarvest.Scripted.Callback
import PageHarvest.Static.Site

/-!
The world of static pages: documents parsed from what a scripted site answers, a clock, and changes
to the first page that come at their time. Elements keep their numbers when they leave a document, so
that whoever holds one can go on looking inside it.
-/
namespace PageHarvest

/-- A page and the number of its document. -/
structure StaticPage where
  url : String := blankUrl
  document : Nat
  intercepting : Bool := false
  interceptors : List Interceptor := []

/-- An element to come up in the document of the first page. -/
structure Arrival where
  atMs : Rat
  element : NewElement

structure StaticWorld where
  site : Site
  start : Rat
  now : Rat
  /-- Arrivals that have not come yet. -/
  arrivals : List Arrival := []
  /-- Documents, and elements that were taken out of them. -/
  trees : List Html.Node := []
  nextId : Nat := 0
  pages : Array StaticPage := #[]
  pollIntervalMs : Int := 50
  pagesReport : Bool := false
  log : List Event := []
  /-- Requests sent, newest first. -/
  requests : List PageRequest := []
  /-- Requests that interceptors were asked about, newest first. -/
  handled : List PageRequest := []
  /-- The results that each callback was called with, newest first. -/
  seen : List (List Item) := []

namespace StaticWorld

def precision : Precision := .double

/-- The place of an element in the tree that it is in. -/
def place? (w : StaticWorld) (id : Nat) : Option Html.Place :=
  w.trees.findSome? fun t => (Html.Place.top t).find? id

/-- Parses a document into the world; the answer is its number. -/
def parse (w : StaticWorld) (markup : String) : Nat × StaticWorld :=
  let (tree, next) := Html.parse markup w.nextId
  (w.nextId, { w with trees := tree :: w.trees, nextId := next })

/-- The first element that is picked below another. -/
def first? (w : StaticWorld) (pick : Html.Place → List Html.Place) (root : Nat) : Option Nat :=
  ((w.place? root).bind fun p => (pick p).head?).bind Html.Place.id?

/-- Adds an element to the end of the first one in a document that its selector picks. -/
def append (w : StaticWorld) (document : Nat) (e : NewElement) : Except Failure StaticWorld := do
  match w.first? (← Css.engine e.parent) document with
  | none => return w
  | some parent =>
    let children := e.text.toList.map (Html.Node.text .plain)
    let new := Html.Node.element w.nextId e.tag (Html.attrsFor e.tag e.attrs) children
    return { w with trees := w.trees.map fun t => Html.Node.appendTo parent new t, nextId := w.nextId + 1 }

/-- Takes the first element that a selector picks out of a document. -/
def detach (w : StaticWorld) (document : Nat) (selector : String) : Except Failure StaticWorld := do
  let pick ← Css.engine selector
  let found := (w.place? document).bind fun p => (pick p).head?
  match found.map Html.Place.node with
  | some (.element id tag attrs children) =>
    return { w with
      trees := w.trees.map (·.without id) ++ [.element id tag attrs children] }
  | _ => return w

/-- The document of the first page. -/
def firstDocument (w : StaticWorld) : Nat :=
  (w.pages[0]?.map (·.document)).getD 0

/-- Lets everything arrive whose time has come. -/
def arrive (w : StaticWorld) : StaticWorld :=
  let due (a : Arrival) : Bool :=
    precision.near (w.start + precision.near (a.atMs / 1000)) ≤ w.now
  let put (w : StaticWorld) (a : Arrival) : StaticWorld :=
    (w.append w.firstDocument a.element).toOption.getD w
  (w.arrivals.filter due).foldl put { w with arrivals := w.arrivals.filter fun a => !due a }

def pass (seconds : Rat) (w : StaticWorld) : StaticWorld :=
  { w with now := precision.near (w.now + seconds) }.arrive

def openPage (w : StaticWorld) (interceptors : List Interceptor) (intercepting : Bool) :
    PageRef × StaticWorld :=
  let (document, w) := w.parse ""
  (.page w.pages.size, { w with pages := w.pages.push { document, interceptors, intercepting } })

/-- The page of a reference; there is none to be asked when there is no page. -/
def page (r : PageRef) : Act StaticWorld StaticPage := do
  match r with
  | .nothing => Act.fail Cause.noOperation
  | .page n =>
    match (← get).pages[n]? with
    | some p => return p
    | none => Act.fail Cause.noOperation

def changePage (r : PageRef) (change : StaticPage → StaticPage) : Act StaticWorld Unit :=
  match r with
  | .nothing => return
  | .page n => modify fun w => { w with pages := w.pages.modify n change }

/-- Has the requests of a page intercepted from now on, or not. -/
def setInterception (r : PageRef) (enabled : Bool) : Act StaticWorld Unit :=
  changePage r fun p => { p with intercepting := enabled }

/-- Adds an interceptor, which is asked after those that are there. -/
def addInterceptor (r : PageRef) (i : Interceptor) : Act StaticWorld Unit :=
  changePage r fun p => { p with interceptors := p.interceptors ++ [i] }

end StaticWorld
end PageHarvest
