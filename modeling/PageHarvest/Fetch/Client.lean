import PageHarvest.Replay.Clock
import PageHarvest.Replay.Host
import PageHarvest.Text.Case

/-!
A client that fetches pages: what it sends for a request, and what it keeps of the reply.
-/
namespace PageHarvest

/-- Headers that every request carries, and how many seconds it may take. -/
structure HttpClient where
  headers : Table String Value := []
  timeout : Value := .int 30

/-- A request as it is sent. Redirects are always followed. -/
structure SentRequest where
  method : String
  url : String
  headers : Table String Value
  data : Value
  timeout : Value

/-- A reply to a request. -/
structure HttpReply where
  status : Value
  url : Value
  text : String
  headers : Table String Value
  encoding : Value

namespace HttpClient

/-- The client of pages with these settings. Headers among the settings win over the name of the
agent. -/
def ofDefaults (d : Defaults) : Except Failure HttpClient := do
  let seconds ← Precision.double.seconds d.navigationTimeoutMs
  return {
    headers := Table.update [("User-Agent", .text d.userAgent)] d.headers
    timeout := .float (Binary64.ofRat seconds) }

/-- The request that is sent; its own headers win over the client's. -/
def prepare (c : HttpClient) (method url : String) (headers : Table String Value) (data : Value) :
    SentRequest where
  method := Text.upper method
  url := url
  headers := Table.update c.headers headers
  data := data
  timeout := c.timeout

end HttpClient

/-- A reply with its address as text. -/
def HttpReply.kept (r : HttpReply) : HttpReply :=
  { r with url := .text r.url.plain }

end PageHarvest
