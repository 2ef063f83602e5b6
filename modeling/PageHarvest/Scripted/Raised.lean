import PageHarvest.Failure

/-!
Failures given by name and arguments, as scripts raise them. The text of a failure follows from its
arguments: none give no text, one gives its own, and several are shown together.
-/
namespace PageHarvest.Scripted

/-- Transport faults by name; the second part tells those that mean a malformed request. -/
def transportNames : List (ClassName × Bool) := [
  (.mk "RequestException", false), (.mk "ProxyError", false), (.mk "SSLError", false),
  (.mk "ConnectTimeout", false), (.mk "ReadTimeout", false), (.mk "URLRequired", false),
  (.mk "MissingSchema", true), (.mk "InvalidSchema", true), (.mk "InvalidURL", true),
  (.mk "InvalidHeader", true), (.mk "InvalidProxyURL", true), (.mk "ChunkedEncodingError", false),
  (.mk "ContentDecodingError", false), (.mk "StreamConsumedError", false), (.mk "RetryError", false),
  (.mk "UnrewindableBodyError", false), (.mk "InvalidJSONError", false)]

def transportFault? (name : String) : Option TransportFault :=
  match name with
  | "ConnectionError" => some .connection
  | "Timeout" => some .timeout
  | "TooManyRedirects" => some .tooManyRedirects
  | "HTTPError" => some .httpStatus
  | _ => (transportNames.find? fun e => e.1.text == name).map fun e => .other e.1 e.2

/-- A class that a script names; one that it leaves without a name is the most general one. -/
def className (name : String) : ClassName :=
  if filled : name ≠ "" then ⟨name, filled⟩ else .mk "Exception"

/-- The text of arguments without a meaning of their own. -/
def argumentText : List Value → String
  | [] => ""
  | [v] => v.plain
  | vs => (Value.tuple vs).shown

/-- The text of a system failure: a number and a word, and what it was about if that is given. -/
def systemText : List Value → String
  | [number, word] => "[Errno " ++ number.plain ++ "] " ++ word.plain
  | number :: word :: .null :: _ => "[Errno " ++ number.plain ++ "] " ++ word.plain
  | number :: word :: about :: _ =>
    "[Errno " ++ number.plain ++ "] " ++ word.plain ++ ": " ++ about.shown
  | vs => argumentText vs

/-- Names of system failures by their numbers. -/
def systemNumbers : List (String × List Int) := [
  ("FileNotFoundError", [2]), ("PermissionError", [1, 13]), ("FileExistsError", [17]),
  ("IsADirectoryError", [21]), ("NotADirectoryError", [20]), ("InterruptedError", [4]),
  ("BlockingIOError", [11, 114, 115]), ("ChildProcessError", [10]), ("ProcessLookupError", [3]),
  ("BrokenPipeError", [32, 108]), ("ConnectionAbortedError", [103]),
  ("ConnectionRefusedError", [111]), ("ConnectionResetError", [104]), ("TimeoutError", [110])]

/-- The name of a system failure that is given by a general name; its number may tell more. -/
def systemName (args : List Value) : String :=
  match args with
  | .int n :: _ :: _ => ((systemNumbers.find? fun e => e.2.contains n).map (·.1)).getD "OSError"
  | _ => "OSError"

def systemCause (name : String) (args : List Value) : Cause :=
  match name with
  | "TimeoutError" => .waitExpired (systemText args)
  | "IsADirectoryError" => .isDirectory (systemText args)
  | _ => .outside (className name) (systemText args)

/-- The first argument, or null. -/
def first (args : List Value) : Value := args.headD .null

/-- The second argument, or null. -/
def second (args : List Value) : Value := (args.drop 1).headD .null

/-- The first argument as a text, or a text for none. -/
def firstText (args : List Value) (absent : String) : String :=
  match args with
  | [] => absent
  | v :: _ => v.plain

def cause (name : String) (args : List Value) : Cause :=
  match transportFault? name with
  | some fault => .transport fault (systemText args)
  | none =>
    match name with
    | "InvalidQuery" => .invalidQuery (firstText args "invalid query")
    | "InvalidMethod" => .invalidMethod (first args)
    | "InvalidPipeline" => .invalidPipeline (firstText args Cause.defaultPipelineMessage)
    | "BlankPageError" => .blankPage (first args)
    | "HttpStatusError" => .httpStatus (first args) (second args)
    | "SelectorTimeoutError" => .selectorTimeout (first args) (second args)
    | "NoResultsError" => .noResults
    | "QueryError" => .query (argumentText args)
    | "QueryLoadError" => .unloadable (argumentText args)
    | "ValueError" => .badValue (argumentText args)
    | "TypeError" => .badType (argumentText args)
    | "OverflowError" => .overflow (argumentText args)
    | "AttributeError" => .noOperation
    | "NotImplementedError" => .notSupported (argumentText args)
    | "RuntimeError" => .internal (argumentText args)
    | "OSError" | "IOError" | "EnvironmentError" => systemCause (systemName args) args
    | "KeyError" =>
      match args with
      | [v] => .outside (className name) v.shown
      | _ => .outside (className name) (argumentText args)
    | "UnicodeError" => .outside (className name) (argumentText args) [.badValue]
    | _ =>
      if systemNumbers.any fun e => e.1 == name then systemCause name args
      else .outside (className name) (argumentText args)

/-- A failure of a name, arguments and attached facts. -/
def raised (name : String) (args : List Value) (attached : Table String Value) : Failure :=
  ⟨cause name args, attached⟩

end PageHarvest.Scripted
