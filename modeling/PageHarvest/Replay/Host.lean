import PageHarvest.Query.Step
import PageHarvest.Replay.Act
import PageHarvest.Replay.Clock
import PageHarvest.Replay.Event
import PageHarvest.Replay.State

/-!
What a replay needs from outside: pages, a clock, a place for events, and what calling a callback
does. All of it is a transition of the world `W`; pages, element handles and callbacks are of types
that the replay does not look into.
-/
namespace PageHarvest

/-- What a visit came to. The status is absent when nothing was fetched. -/
structure PageResponse where
  status : Option Int
  url : String
  deriving Repr, DecidableEq

/-- The address of the page that shows nothing. -/
def blankUrl : String := "about:blank"

/-- Pages as a replay sees them. A root of `none` is the whole document. -/
structure PageDriver (W P H : Type) where
  blank : P → String
  navigate : P → Visit → Act W PageResponse
  /-- Succeeds when a match is there, and fails with a timeout when none came in time. -/
  waitFor : P → (selector : String) → (timeoutMs : Int) → Option H → Act W Unit
  queryAll : P → (selector : String) → Option H → Act W (List H)
  extract : P → Option H → (selector : String) → (attr : Option String) → Act W (Option String)

/-- The second half of what a callback gives back. -/
inductive Results where
  | absent
  | items (items : List Item)
  /-- Anything that is not a sequence of items. -/
  | data (v : Value)

/-- What a callback gives back: a pair of a page and results, or something else. -/
inductive Answer (P : Type) where
  | pair (page : P) (results : Results)
  | other

structure Host (W P H C : Type) extends PageDriver W P H, Clock W where
  emit : Event → W → W
  call : C → P → List Item → Act W (Answer P)
  samePage : P → P → Bool

namespace Host
variable {W P H C : Type}

/-- The same host with fields that every event carries unless it has them itself. -/
def bind (h : Host W P H C) (bound : Fields) : Host W P H C :=
  { h with emit := fun e => h.emit { e with fields := Table.update bound e.fields } }

def log (h : Host W P H C) (level : Level) (name : String) (fields : Fields) : Act W Unit :=
  modify (h.emit ⟨level, name, fields⟩)

def time (h : Host W P H C) : Act W Rat :=
  return h.now (← get)

end Host

/-- Settings of a replay. -/
structure Defaults where
  waitTimeoutMs : Int := 30000
  navigationTimeoutMs : Int := 30000
  pollIntervalMs : Int := 50
  userAgent : String :=
    "Mozilla/5.0 (Windows NT 10.0; Win64; x64) AppleWebKit/537.36 (KHTML, like Gecko) " ++
      "Chrome/120.0.0.0 Safari/537.36"
  headers : Table String Value := []

end PageHarvest
