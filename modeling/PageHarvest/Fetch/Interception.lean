import PageHarvest.Data.Value
import PageHarvest.Failure

/-!
Interception: rules that answer the requests of pages before they are sent.
-/
namespace PageHarvest

structure PageRequest where
  method : String
  url : String
  postData : Value
  headers : Table String String := []

/-- An answer made up for a request. -/
structure MadeResponse where
  status : Int := 200
  body : String := ""
  contentType : String := "text/html"

/-- A rule that answers requests to addresses with some part, or of some method. -/
structure Rule where
  part : Option String
  method : Option String
  response : MadeResponse

/-- Whether `part` occurs in a text. -/
def occursIn (part : List Char) : List Char → Bool
  | [] => part.isEmpty
  | c :: rest => part.isPrefixOf (c :: rest) || occursIn part rest

def Rule.applies (r : Rule) (q : PageRequest) : Bool :=
  r.part.all (fun p => occursIn p.toList q.url.toList) && r.method.all (· == q.method)

/-- Rules tried in order. -/
abbrev Interceptor := List Rule

def Interceptor.answer? (rules : Interceptor) (q : PageRequest) : Option MadeResponse :=
  (rules.find? fun r => r.applies q).map (·.response)

/-- What somebody answers to requests, if anything. -/
abbrev Answerer := PageRequest → Option MadeResponse

/-- Asks in order until somebody answers: how many were asked, and the answer. -/
def PageRequest.ask (q : PageRequest) : List Answerer → Nat × Option MadeResponse
  | [] => (0, none)
  | answer? :: rest =>
    match answer? q with
    | some made => (1, some made)
    | none =>
      let (n, made) := q.ask rest
      (n + 1, made)

/-- What somebody does about requests: answers them, leaves them alone or fails. -/
abbrev Responder := PageRequest → Except Failure (Option MadeResponse)

/-- Asks in order until somebody answers or fails: how many were asked, and what it came to. -/
def PageRequest.consult (q : PageRequest) : List Responder → Nat × Except Failure (Option MadeResponse)
  | [] => (0, .ok none)
  | respond :: rest =>
    match respond q with
    | .ok none =>
      let (n, out) := q.consult rest
      (n + 1, out)
    | out => (1, out)

/-- What the interceptor in each place does. -/
abbrev Reaction := Nat → Interceptor → Responder

/-- What the interceptor in each place answers. -/
abbrev Conduct := Nat → Interceptor → Answerer

/-- Interceptors that go by their rules. -/
def Conduct.scripted : Conduct :=
  fun _ => Interceptor.answer?

/-- A conduct never fails. -/
def Conduct.reaction (c : Conduct) : Reaction :=
  fun place i q => .ok (c place i q)

def Conduct.ask (c : Conduct) (q : PageRequest) (interceptors : List Interceptor) :
    Nat × Option MadeResponse :=
  q.ask (interceptors.mapIdx c)

end PageHarvest
