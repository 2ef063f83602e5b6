import PageHarvest.Fetch.Interception

/-!
A browser's page, given by what its selectors find and where its addresses lead, with the routes that
requests of the page take and the calls that reach it.
-/
namespace PageHarvest

/-- An element as the browser shows it. A property is what scripts see under an attribute's name. -/
structure BrowserNode where
  text : Option String := none
  attrs : Table String Value := []
  props : Table String Value := []

/-- What going to an address comes to. -/
inductive BrowserLoad where
  /-- Nothing is fetched. -/
  | nothing
  | expires (message : String)
  /-- A request is sent, but no page comes unless it is made up on the way. -/
  | breaks (error : ClassName) (message : String)
  /-- The page is fetched, and then what it needs. An absent address stands for the one gone to. -/
  | fetches (status : Int) (url : Option String) (needed : List String)
  /-- The page is fetched, and scripts send requests of their own before its request and after it. -/
  | talks (status : Int) (url : Option String) (before after : List PageRequest)

/-- The request with another method, and with other data if there are any. -/
def PageRequest.overridden (q : PageRequest) (method : String) (postData : Value) : PageRequest :=
  { q with method, postData := if postData matches .null then q.postData else postData }

structure BrowserPage where
  url : String
  /-- What the browser puts into the headers of every request of its own. -/
  headers : Table String String := []
  loads : Table String BrowserLoad := []
  /-- What selectors find below an element, by their keys; the key `""` is the page. -/
  found : Table String (Table String (List String)) := []
  nodes : Table String BrowserNode := []
  /-- What every script evaluates to. -/
  evaluated : Value := .null

/-- Where requests are led off their way: all of them, or those to one address. -/
inductive Route where
  /-- Interceptors are asked about the request. -/
  | intercepted
  /-- Requests to the address take another method, and other data if there are any. -/
  | rewritten (url method : String) (postData : Value)

/-- A call that reaches the browser, or something that it does. Searches name where they start. -/
inductive BrowserCall where
  | goto (url : String) (timeoutMs : Int)
  | addRoute (route : Route)
  | dropRoute (route : Route)
  | query (root selector : String)
  | wait (root selector : String) (timeoutMs : Int)
  | readAttr (node name : String)
  | readAddress (node name : String)
  | evaluate (args : List Value)
  | fulfill (response : MadeResponse)
  | passOn
  | network (request : PageRequest)

end PageHarvest
