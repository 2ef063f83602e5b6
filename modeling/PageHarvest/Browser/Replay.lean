import PageHarvest.Browser.World
import PageHarvest.Query.Builder
import PageHarvest.Replay.Run
import PageHarvest.Text.Blank
import PageHarvest.Text.Case
import PageHarvest.Url

/-!
Replaying on a browser's page. A visit that is no plain fetch goes to its address like any other, with
a route that rewrites the request for as long as the visit lasts.
-/
namespace PageHarvest
namespace BrowserWorld

def addRoute (r : Route) : Act BrowserWorld Unit := do
  note (.addRoute r)
  modify fun w => { w with routes := r :: w.routes }

/-- Drops the newest route that rewrites requests. -/
def dropRewriting (r : Route) : Act BrowserWorld Unit := do
  note (.dropRoute r)
  modify fun w => { w with routes := w.routes.eraseP (· matches .rewritten ..) }

/-- Has all requests intercepted from now on, or none. -/
def setInterception (enabled : Bool) : Act BrowserWorld Unit := do
  if enabled == (← get).intercepting then return
  if enabled then addRoute .intercepted
  else
    note (.dropRoute .intercepted)
    modify fun w => { w with routes := w.routes.filter fun r => !(r matches .intercepted) }
  modify fun w => { w with intercepting := enabled }

/-- Adds an interceptor, which is asked after those that are there. -/
def addInterceptor (i : Interceptor) : Act BrowserWorld Unit :=
  modify fun w => { w with interceptors := w.interceptors ++ [i] }

/-- Goes to the address of a visit with its method and data. -/
def visit (c : Conduct) (v : Visit) : Act BrowserWorld (Option Int) := do
  let method := Text.upper v.method
  if method == "GET" && v.postData matches .null then goto c v.url
  else
    let route := Route.rewritten v.url method v.postData
    addRoute route
    let status ← (goto c v.url).outcome
    dropRewriting route
    Act.ofExcept status

def navigateVia (c : Conduct) (v : Visit) : Act BrowserWorld PageResponse := do
  match ← visit c v with
  | some status => return ⟨some status, (← get).page.url⟩
  | none =>
    let url := (← get).page.url
    return ⟨none, if url.isEmpty then blankUrl else url⟩

def navigate (v : Visit) : Act BrowserWorld PageResponse :=
  navigateVia .scripted v

/-- Waits for an element and answers the first one. What is not there yet never comes. -/
def await (selector : String) (timeoutMs : Int) (root : Option String) : Act BrowserWorld String := do
  let root := root.getD ""
  note (.wait root selector timeoutMs)
  match findAll (← get).page root selector with
  | key :: _ => return key
  | [] => Act.fail (Cause.waitExpired ("Timeout " ++ toString timeoutMs ++ "ms exceeded."))

/-- The text or an attribute of the first element that a selector finds. -/
def extract (root : Option String) (selector : String) (attr : Option String) :
    Act BrowserWorld (Option String) := do
  match ← query (root.getD "") selector, attr with
  | [], _ => return none
  | key :: _, none => return some (Text.strip ((← node key).text.getD ""))
  | key :: _, some name =>
    if Url.attrNames.contains name then readAddress key name else readAttr key name

def evaluate (args : List Value) : Act BrowserWorld Value := do
  note (.evaluate args)
  return (← get).page.evaluated

/-- A browser's page as the host of a replay without callbacks. -/
def host : Host BrowserWorld Unit String Empty where
  blank _ := blankUrl
  navigate _ := navigate
  waitFor _ selector timeoutMs root := do
    let _ ← await selector timeoutMs root
  queryAll _ selector root := query (root.getD "") selector
  extract _ := extract
  precision := .double
  now w := w.now
  sleep s w := { w with now := Precision.double.near (w.now + s) }
  emit e w := { w with log := e :: w.log }
  call c := nomatch c
  samePage _ _ := true

def replay (w : BrowserWorld) (d : Defaults) (q : Query Empty) (runId : String) :
    Except Failure (List Record) × BrowserWorld :=
  (Replay.execute host d Handler.standard q.steps () runId).runOn
    { w with navigationTimeoutMs := d.navigationTimeoutMs }

end BrowserWorld
end PageHarvest
