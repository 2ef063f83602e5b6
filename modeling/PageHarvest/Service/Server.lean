/-!
Where the service listens.
-/
namespace PageHarvest

/-- Settings of a server: the application that it serves, its address, and whether it starts anew when
a source file changes. -/
structure Server where
  application : String
  host : String
  port : Nat
  reload : Bool
  deriving Repr, DecidableEq

/-- The server of queries, on all addresses of the machine. -/
def Server.queries : Server where
  application := "api.main:app"
  host := "0.0.0.0"
  port := 8000
  reload := true

end PageHarvest
