import PageHarvest.Browser.Page
import PageHarvest.Replay.Act
import PageHarvest.Replay.Clock
import PageHarvest.Replay.Event

/-!
The world of one browser page: the page, its routes, a clock and a note of every call. The newest
route is asked first about a request.
-/
namespace PageHarvest

structure BrowserWorld where
  page : BrowserPage
  navigationTimeoutMs : Int
  now : Rat
  /-- Routes, newest first. -/
  routes : List Route := []
  interceptors : List Interceptor := []
  intercepting : Bool := false
  log : List Event := []
  /-- Calls, newest first. -/
  calls : List BrowserCall := []
  /-- Requests that interceptors were asked about, newest first. -/
  handled : List PageRequest := []

namespace BrowserWorld

def note (c : BrowserCall) : Act BrowserWorld Unit :=
  modify fun w => { w with calls := c :: w.calls }

/-- Sends a request along routes. The answer is there when it was made up on the way. -/
def sendVia (c : Conduct) (q : PageRequest) : List Route → Act BrowserWorld (Option MadeResponse)
  | [] => do
    note (.network q)
    return none
  | .rewritten url method postData :: rest =>
    sendVia c (if q.url == url then q.overridden method postData else q) rest
  | .intercepted :: _ => do
    let (n, made) := c.ask q (← get).interceptors
    modify fun w => { w with handled := List.replicate n q ++ w.handled }
    match made with
    | some m =>
      note (.fulfill m)
      return some m
    | none =>
      note .passOn
      note (.network q)
      return none

def requestVia (c : Conduct) (q : PageRequest) : Act BrowserWorld (Option MadeResponse) := do
  sendVia c q (← get).routes

def request (q : PageRequest) : Act BrowserWorld (Option MadeResponse) :=
  requestVia .scripted q

def fetch (c : Conduct) (url : String) : Act BrowserWorld (Option MadeResponse) := do
  requestVia c ⟨"GET", url, .null, (← get).page.headers⟩

def fetchAll (c : Conduct) : List String → Act BrowserWorld Unit
  | [] => return
  | url :: rest => do
    let _ ← fetch c url
    fetchAll c rest

def requestAll (c : Conduct) : List PageRequest → Act BrowserWorld Unit
  | [] => return
  | q :: rest => do
    let _ ← requestVia c q
    requestAll c rest

/-- Goes to an address; the answer is the status of the page, if one was fetched. -/
def goto (c : Conduct) (url : String) : Act BrowserWorld (Option Int) := do
  let w ← get
  note (.goto url w.navigationTimeoutMs)
  match (w.page.loads.get? url).getD (.fetches 200 none []) with
  | .nothing => return none
  | .expires message => Act.fail (Cause.outside (.mk "TimeoutError") message)
  | .breaks error message => do
    match ← fetch c url with
    | some made =>
      modify fun w => { w with page := { w.page with url } }
      return some made.status
    | none => Act.fail (Cause.outside error message)
  | .fetches status final needed => do
    let made ← fetch c url
    fetchAll c needed
    modify fun w => { w with page := { w.page with url := final.getD url } }
    return some ((made.map (·.status)).getD status)
  | .talks status final before after => do
    requestAll c before
    let made ← fetch c url
    requestAll c after
    modify fun w => { w with page := { w.page with url := final.getD url } }
    return some ((made.map (·.status)).getD status)

/-- What a selector finds below an element of a page. -/
def findAll (p : BrowserPage) (root selector : String) : List String :=
  ((p.found.get? root).bind (·.get? selector)).getD []

def query (root selector : String) : Act BrowserWorld (List String) := do
  note (.query root selector)
  return findAll (← get).page root selector

def node (key : String) : Act BrowserWorld BrowserNode := do
  return ((← get).page.nodes.get? key).getD {}

def readAttr (key name : String) : Act BrowserWorld (Option String) := do
  note (.readAttr key name)
  return ((← node key).attrs.get? name).bind Value.text?

/-- An attribute as the address that scripts see. One that is written as nothing stays nothing. -/
def readAddress (key name : String) : Act BrowserWorld (Option String) := do
  note (.readAddress key name)
  let n ← node key
  match (n.attrs.get? name).bind Value.text?, n.props.get? name with
  | some raw, some (.text full) => return some (if raw.isEmpty || full.isEmpty then raw else full)
  | raw, _ => return raw

end BrowserWorld
end PageHarvest
