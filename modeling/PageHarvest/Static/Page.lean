import PageHarvest.Fetch.Client
import PageHarvest.Replay.Run
import PageHarvest.Replay.Watch
import PageHarvest.Static.World
import PageHarvest.Url

/-!
Pages over fetched markup. No scripts run on them: an element that is waited for can only come with
time, and the page looks for it again and again until then.
-/
namespace PageHarvest

/-- What pages are given to work with. -/
structure Backend where
  /-- What interceptors come to, with how many of them were asked. -/
  ask : List Interceptor → PageRequest → Nat × Except Failure (Option MadeResponse)
  /-- What a site answers when the interceptors leave a request alone. -/
  client : Site → PageRequest → SitePage
  engine : Css.Engine := Css.engine
  longestSleep : Option Rat := none

/-- Interceptors that answer, leave requests alone or fail. -/
def Backend.reacting (c : Reaction) (client : Site → PageRequest → SitePage) : Backend where
  ask interceptors q := q.consult (interceptors.mapIdx c)
  client := client

/-- Interceptors that answer or leave requests alone. -/
def Backend.conducted (c : Conduct) (client : Site → PageRequest → SitePage) : Backend :=
  .reacting c.reaction client

/-- Interceptors that are rules, and sites that know addresses only. -/
def Backend.scripted : Backend :=
  .conducted .scripted fun site q => site.page q.url

/-- The clock of a world, by which sites change while time passes. -/
def Backend.clock (t : Backend) : Clock StaticWorld where
  precision := StaticWorld.precision
  now w := w.now
  sleep := StaticWorld.pass
  longestSleep := t.longestSleep

namespace StaticWorld

/-- Asks interceptors in order until one answers. -/
def intercept (t : Backend) (q : PageRequest) (interceptors : List Interceptor) :
    Act StaticWorld (Option MadeResponse) := do
  let (n, made) := t.ask interceptors q
  modify fun w => { w with handled := List.replicate n q ++ w.handled }
  Act.ofExcept made

def send (t : Backend) (q : PageRequest) : Act StaticWorld SitePage := do
  modify fun w => { w with requests := q :: w.requests }
  let answer := t.client (← get).site q
  match answer.latencyMs with
  | some ms => modify (pass (precision.near (ms / 1000)))
  | none => pure ()
  match answer.failure with
  | some f => Act.fail f
  | none => return answer

def display (r : PageRef) (url markup : String) : Act StaticWorld Unit := do
  let (document, w) := (← get).parse markup
  set w
  changePage r fun p => { p with url, document }

/-- Status, address and markup that a request of a page for an address comes to: what an interceptor
makes up, or else what the site answers. -/
def fetch (t : Backend) (p : StaticPage) (q : PageRequest) :
    Act StaticWorld (Int × String × String) := do
  let made ← if p.intercepting then intercept t q p.interceptors else pure none
  match made with
  | some m => return (m.status, q.url, m.body)
  | none => do
    let a ← send t q
    return (a.status, a.url.getD q.url, a.markup)

/-- Reports a visit, if pages are to report. -/
def reportVisit (q : PageRequest) (status : Int) : Act StaticWorld Unit :=
  modify fun w =>
    if w.pagesReport then
      { w with log := ⟨.debug, "static_driver.navigate",
        [("url", .text q.url), ("method", .text q.method), ("status", .int status)]⟩ :: w.log }
    else w

def navigateVia (t : Backend) (r : PageRef) (visit : Visit) : Act StaticWorld PageResponse := do
  let p ← page r
  if visit.url == blankUrl then
    display r blankUrl ""
    return ⟨none, blankUrl⟩
  else
    let q : PageRequest := ⟨Text.upper visit.method, visit.url, visit.postData, []⟩
    let (status, url, markup) ← fetch t p q
    display r url markup
    reportVisit q status
    return ⟨some status, url⟩

def navigate (r : PageRef) (visit : Visit) : Act StaticWorld PageResponse :=
  navigateVia .scripted r visit

/-- The element that a search starts at: a root, or the document of the page. -/
def rootOf (r : PageRef) (root : Option Nat) : Act StaticWorld Nat := do
  let p ← page r
  return root.getD p.document

section Reading
variable (engine : Css.Engine)

/-- Looks for an element once. -/
def glance (r : PageRef) (selector : String) (root : Option Nat) : Act StaticWorld (Option Nat) := do
  let root ← rootOf r root
  let pick ← Act.ofExcept (engine selector)
  return (← get).first? pick root

def watchVia (c : Clock StaticWorld) (r : PageRef) (selector : String) (root : Option Nat) :
    Watch StaticWorld Nat where
  toClock := c
  glance := glance engine r selector root

/-- Waits for an element by a clock and answers the first one. -/
def awaitVia (c : Clock StaticWorld) (r : PageRef) (selector : String) (timeoutMs : Int)
    (root : Option Nat) : Act StaticWorld Nat := do
  let _ ← page r
  (watchVia engine c r selector root).await (← get).pollIntervalMs timeoutMs
    (Cause.waitExpired (Cause.waitMessage selector (toString timeoutMs)))

def queryAll (r : PageRef) (selector : String) (root : Option Nat) : Act StaticWorld (List Nat) := do
  let root ← rootOf r root
  let pick ← Act.ofExcept (engine selector)
  return (((← get).place? root).map fun p => (pick p).filterMap Html.Place.id?).getD []

/-- The value of an attribute on a page at `url`. Addresses become absolute on a page that has one. -/
def attrValue (url name : String) (v : Html.AttrValue) : Except Failure String :=
  if Url.attrNames.contains name && !v.joined.isEmpty && url != blankUrl then Url.join url v.joined
  else .ok v.joined

/-- The text or an attribute of the first element that a selector picks. -/
def extract (r : PageRef) (root : Option Nat) (selector : String) (attr : Option String) :
    Act StaticWorld (Option String) := do
  let p ← page r
  let pick ← Act.ofExcept (engine selector)
  let w ← get
  let found := (w.place? (root.getD p.document)).bind fun q => (pick q).head?
  match found, attr with
  | none, _ => return none
  | some q, none => return some (Text.strip q.node.shownText)
  | some q, some name =>
    match q.node.attr? name with
    | none => return none
    | some v => return some (← Act.ofExcept (attrValue p.url name v))

end Reading

def await (t : Backend) (r : PageRef) (selector : String) (timeoutMs : Int) (root : Option Nat) :
    Act StaticWorld Nat :=
  awaitVia t.engine t.clock r selector timeoutMs root

/-- A page is worked on only by code, never by what a definition can write. -/
def refuseEvaluation (r : PageRef) : Act StaticWorld Unit := do
  let _ ← page r
  Act.fail (Cause.badType
    "StaticPageDriver.evaluate expects a callable taking the parsed document")

def toolsVia (t : Backend) : PageTools StaticWorld where
  append r e := do
    let p ← page r
    set (← Act.ofExcept ((← get).append p.document e))
  remove r selector := do
    let p ← page r
    set (← Act.ofExcept ((← get).detach p.document selector))
  visit r url := do
    let _ ← navigateVia t r ⟨url, "GET", .null⟩
  evaluate r _ := refuseEvaluation r
  fresh := do
    let (r, w) := (← get).openPage [] false
    set w
    return r

def tools : PageTools StaticWorld :=
  toolsVia .scripted

/-- Calls a callback and notes what it was called with. -/
def callVia (t : Backend) (c : Callback) (r : PageRef) (results : List Item) :
    Act StaticWorld (Answer PageRef) := do
  modify fun w => { w with seen := results :: w.seen }
  c.call (toolsVia t) r results

def call (c : Callback) (r : PageRef) (results : List Item) : Act StaticWorld (Answer PageRef) :=
  callVia .scripted c r results

/-- Static pages as the host of a replay. -/
def hostVia (t : Backend) : Host StaticWorld PageRef Nat Callback where
  blank _ := blankUrl
  navigate := navigateVia t
  waitFor r selector timeoutMs root := do
    let _ ← await t r selector timeoutMs root
  queryAll := queryAll t.engine
  extract := extract t.engine
  toClock := t.clock
  emit e w := { w with log := e :: w.log }
  call := callVia t
  samePage a b := a == b

def host : Host StaticWorld PageRef Nat Callback :=
  hostVia .scripted

/-- Opens a page with settings. A page that makes its own client needs to tell its timeout in
seconds. -/
def newPage (ownClient : Bool) (d : Defaults) : Act StaticWorld PageRef := do
  if ownClient then
    let _ ← Act.ofExcept (HttpClient.ofDefaults d)
  let (page, w) := { (← get) with pollIntervalMs := d.pollIntervalMs }.openPage [] false
  set w
  return page

end StaticWorld
end PageHarvest
