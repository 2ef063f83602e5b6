import PageHarvest.Data.Display

/-!
Why building or replaying a query fails. Each cause knows its name, its text and the facts that a
caller may ask it for; whoever raises a failure may attach facts of its own.
-/
namespace PageHarvest

/-- The name of a class of failures, which is never empty. -/
structure ClassName where
  text : String
  filled : text ≠ "" := by decide
  deriving Repr, DecidableEq

/-- Failures of the transport below pages, by what went wrong. -/
inductive TransportFault where
  | connection
  | timeout
  | tooManyRedirects
  | httpStatus
  /-- A fault that has no case of its own; `malformed` says whether the request itself was bad. -/
  | other (name : ClassName) (malformed : Bool)
  deriving Repr, DecidableEq

def TransportFault.name : TransportFault → String
  | connection => "ConnectionError"
  | timeout => "Timeout"
  | tooManyRedirects => "TooManyRedirects"
  | httpStatus => "HTTPError"
  | other name _ => name.text

/-- The kinds of failures that callers tell apart. -/
inductive FailureKind where
  | query
  | invalidQuery
  | invalidMethod
  | invalidPipeline
  | blankPage
  | httpStatus
  | selectorTimeout
  | noResults
  | unloadable
  | timeout
  | badValue
  | transport
  deriving Repr, DecidableEq

/-- A kind with the kinds that it is a case of. -/
@[simp]
def FailureKind.above : FailureKind → List FailureKind
  | invalidQuery => [invalidQuery, query]
  | invalidMethod => [invalidMethod, query]
  | invalidPipeline => [invalidPipeline, query]
  | blankPage => [blankPage, query]
  | httpStatus => [httpStatus, query]
  | selectorTimeout => [selectorTimeout, query, timeout]
  | noResults => [noResults, query]
  | k => [k]

inductive Cause where
  /-- A query without a usable start address. -/
  | invalidQuery (message : String)
  | invalidMethod (method : Value)
  | invalidPipeline (message : String)
  | blankPage (url : Value)
  | httpStatus (status url : Value)
  | selectorTimeout (selector timeoutMs : Value)
  | noResults
  /-- A query error of no particular kind. -/
  | query (message : String)
  /-- A definition that cannot be loaded. -/
  | unloadable (message : String)
  /-- A page gave up waiting. -/
  | waitExpired (message : String)
  /-- A selector outside the selector grammar. -/
  | selectorSyntax
  | badValue (message : String)
  | badType (message : String)
  | overflow (message : String)
  /-- Something was asked to do what it has no operation for. -/
  | noOperation
  | notSupported (message : String)
  | internal (message : String)
  | undecodable (message : String)
  | isDirectory (message : String)
  | transport (fault : TransportFault) (message : String)
  /-- A failure from outside the library, known by its name and text. It may be of kinds of the library,
  when its name is a special case of theirs. -/
  | outside (name : ClassName) (message : String) (kinds : List FailureKind := [])

/-- A cause with facts attached to it; an attached fact hides the cause's own of the same name. -/
structure Failure where
  cause : Cause
  attached : Table String Value := []

instance : Coe Cause Failure := ⟨fun c => ⟨c, []⟩⟩

namespace Cause

/-- The message of a pipeline that is not one. -/
def defaultPipelineMessage : String :=
  "Select can only take a path collection"

/-- The text of a missed wait, which waiting pages use as well. -/
def waitMessage (selector timeoutMs : String) : String :=
  "waiting for selector \x60" ++ selector ++ "\x60 failed: timeout " ++ timeoutMs ++ "ms exceeded"

def message : Cause → String
  | invalidQuery m => m
  | invalidMethod method => "invalid method " ++ method.plain
  | invalidPipeline m => m
  | blankPage _ => "blank page"
  | httpStatus status _ => "response return status code: " ++ status.plain
  | selectorTimeout selector timeoutMs => waitMessage selector.plain timeoutMs.plain
  | noResults => "query did not return any results. Did you forget a select?"
  | query m | unloadable m | waitExpired m | badValue m | badType m | overflow m
  | notSupported m | internal m | undecodable m | isDirectory m => m
  | selectorSyntax | noOperation => "*"
  | transport _ m => m
  | outside _ m _ => m

def name : Cause → String
  | invalidQuery _ => "InvalidQuery"
  | invalidMethod _ => "InvalidMethod"
  | invalidPipeline _ => "InvalidPipeline"
  | blankPage _ => "BlankPageError"
  | httpStatus _ _ => "HttpStatusError"
  | selectorTimeout _ _ => "SelectorTimeoutError"
  | noResults => "NoResultsError"
  | query _ => "QueryError"
  | unloadable _ => "QueryLoadError"
  | waitExpired _ => "TimeoutError"
  | selectorSyntax => "SelectorSyntaxError"
  | badValue _ => "ValueError"
  | badType _ => "TypeError"
  | overflow _ => "OverflowError"
  | noOperation => "AttributeError"
  | notSupported _ => "NotImplementedError"
  | internal _ => "RuntimeError"
  | undecodable _ => "UnicodeDecodeError"
  | isDirectory _ => "IsADirectoryError"
  | transport fault _ => fault.name
  | outside name _ _ => name.text

/-- The kinds that a cause is of. -/
@[simp]
def kinds : Cause → List FailureKind
  | invalidQuery _ => FailureKind.invalidQuery.above
  | invalidMethod _ => FailureKind.invalidMethod.above
  | invalidPipeline _ => FailureKind.invalidPipeline.above
  | blankPage _ => FailureKind.blankPage.above
  | httpStatus _ _ => FailureKind.httpStatus.above
  | selectorTimeout _ _ => FailureKind.selectorTimeout.above
  | noResults => FailureKind.noResults.above
  | query _ => [.query]
  | unloadable _ => [.unloadable]
  | waitExpired _ => [.timeout]
  | badValue _ | undecodable _ => [.badValue]
  | transport (.other _ true) _ => [.transport, .badValue]
  | transport _ _ => [.transport]
  | outside _ _ kinds => kinds.flatMap FailureKind.above
  | selectorSyntax | badType _ | overflow _ | noOperation | notSupported _ | internal _
  | isDirectory _ => []

/-- Whether a cause is of a kind. -/
@[simp]
def isA (c : Cause) (k : FailureKind) : Bool :=
  c.kinds.contains k

/-- The stable codes of kinds in reports, in the order in which they are looked up. -/
def taxonomy : List (FailureKind × String) := [
  (.invalidQuery, "invalid_query"), (.invalidMethod, "invalid_method"),
  (.invalidPipeline, "invalid_pipeline"), (.blankPage, "blank_page"), (.httpStatus, "http_status"),
  (.selectorTimeout, "selector_timeout"), (.noResults, "no_results")]

/-- The code of the first kind that the cause is of; causes of none of them share one. -/
def code (c : Cause) : String :=
  ((taxonomy.find? fun e => c.isA e.1).map (·.2)).getD "exception"

/-- Whether the cause is one of building or replaying a query. -/
def isQueryError (c : Cause) : Bool := c.isA .query

def isTimeout (c : Cause) : Bool := c.isA .timeout

def isTransport (c : Cause) : Bool := c.isA .transport

/-- Whether the cause is a value that could not be used. -/
def isBadValue (c : Cause) : Bool := c.isA .badValue

/-- Whether a definition was rejected, as opposed to a replay that failed. -/
def isConstruction (c : Cause) : Bool :=
  c.isA .invalidQuery || c.isA .invalidMethod || c.isA .invalidPipeline || c.isA .unloadable

/-- Facts of a cause by name. -/
def facts : Cause → Table String Value
  | invalidMethod method => [("method", method)]
  | blankPage url => [("url", url)]
  | httpStatus status url => [("status", status), ("url", url)]
  | selectorTimeout selector timeoutMs => [("selector", selector), ("timeout_ms", timeoutMs)]
  | _ => []

/-- The stack has no room left for what is being done. -/
def tooDeep (doing : String) : Cause :=
  outside (.mk "RecursionError") ("maximum recursion depth exceeded" ++ doing)

/-- A place of a sequence is asked for that it does not have. -/
def outOfRange (sequence : String) : Cause :=
  outside (.mk "IndexError") (sequence ++ " index out of range")

/-- An integer has too many digits to be written. -/
def longInteger : Cause :=
  badValue (Text.longInteger "")

/-- A value cannot be shown. -/
def unshown : Value.Unshown → Cause
  | .longInteger => longInteger
  | .tooDeep => tooDeep " while getting the repr of an object"

/-- A cause whose message shows a value, which may be impossible. -/
def showing [Stack] (v : Value) (cause : Cause) : Failure :=
  match v.unshown? with
  | some u => unshown u
  | none => cause

end Cause

namespace Failure

def message (f : Failure) : String := f.cause.message

def name (f : Failure) : String := f.cause.name

def fact? (f : Failure) (fact : String) : Option Value :=
  (f.attached.get? fact).orElse fun _ => f.cause.facts.get? fact

end Failure

/-- What a failure is reported as: its code, a text that is never empty, and its status if that is a
whole number. -/
structure FailureReport where
  code : String
  message : String
  status : Option Value

def Failure.report (f : Failure) : FailureReport where
  code := f.cause.code
  message := if f.message.isEmpty then f.name else f.message
  status := match f.fact? "status" with
    | some (.int n) => some (.int n)
    | some (.bool b) => some (.bool b)
    | _ => none

end PageHarvest
