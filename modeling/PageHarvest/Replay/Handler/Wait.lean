import PageHarvest.Replay.Handler.Basic
import PageHarvest.Text.Digit

/-!
Waiting until every root of the scope holds a selector. All roots share one deadline; a page that
gives up early is asked again until the deadline has passed.
-/
namespace PageHarvest

/-- A requested timeout as a whole number. Fractions are cut off and texts are read. -/
def Value.toInteger : Value → Except Failure Int
  | .int n => .ok n
  | .bool b => .ok (if b then 1 else 0)
  | .float .nan => .error (Cause.badValue "cannot convert float NaN to integer")
  | .float x =>
    match x.toRat? with
    | some q => .ok (if q < 0 then q.ceil else q.floor)
    | none => .error (Cause.overflow "cannot convert float infinity to integer")
  | .text s =>
    match Text.integer? s with
    | some n => .ok n
    | none =>
      .error (Cause.badValue ("invalid literal for int() with base 10: " ++ Text.quoted s))
  | v =>
    .error (Cause.badType ("int() argument must be a string, a bytes-like object or a real number, not '"
      ++ v.kindName ++ "'"))

namespace Handler
variable {W P H C : Type}

/-- The timeout of a step: its own, or that of the run. -/
def effectiveTimeout (d : Defaults) : Value → Except Failure Int
  | .null => .ok d.waitTimeoutMs
  | v => v.toInteger

/-- One wait of a step: what is waited for, until when, and how long to sleep between calls. -/
structure Wait where
  selector : String
  timeoutMs : Int
  deadline : Rat
  poll : Rat

/-- The timeout of one call: the milliseconds that remain, rounded up, and never less than one. -/
def callTimeout (p : Precision) (deadline now : Rat) : Except Failure Int := do
  return max 1 (← p.milliseconds (p.near (deadline - now))).ceil

def Wait.expired (w : Wait) : Failure :=
  Cause.selectorTimeout (.text w.selector) (.int w.timeoutMs)

/-- Reports and raises the failure of a wait. -/
def giveUp (h : Host W P H C) (w : Wait) : Act W Unit := do
  h.log .warning "wait_for.timeout"
    [("selector", .text w.selector), ("timeout_ms", .int w.timeoutMs)]
  Act.fail w.expired

/-- Asks the page once. The answer is the time that remains after a call that timed out, and none
after one that succeeded. -/
def attempt (h : Host W P H C) (w : Wait) (page : P) (root : Option H) : Act W (Option Rat) := do
  let timeoutMs ← Act.ofExcept (callTimeout h.precision w.deadline (← h.time))
  match ← Act.outcome (h.waitFor page w.selector timeoutMs root) with
  | .ok _ => return none
  | .error f =>
    if f.cause.isTimeout then return some (h.precision.near (w.deadline - (← h.time)))
    else Act.fail f

/-- Asks the page until it succeeds, fails otherwise than by timeout, or the deadline has passed.
`retries` bounds how often it is asked again. -/
def waitIn (h : Host W P H C) (w : Wait) (page : P) (root : Option H) : Nat → Act W Unit
  | 0 => do
    if (← attempt h w page root).isSome then giveUp h w
  | retries + 1 => do
    match ← attempt h w page root with
    | none => return
    | some remaining =>
      if 0 < remaining then
        h.rest (shorter w.poll remaining)
        waitIn h w page root retries
      else giveUp h w

/-- How many sleeps fit before the deadline, with as many again for rounding. -/
def retryBound (w : Wait) (now : Rat) : Nat :=
  2 * ((w.deadline - now) / w.poll).ceil.toNat + 2

/-- Waits in one root until a deadline. -/
def waitUnder (h : Host W P H C) (d : Defaults) (selector : String) (timeoutMs : Int)
    (deadline : Rat) (page : P) (root : Option H) : Act W Unit := do
  let poll ← Act.ofExcept (h.precision.seconds (max d.pollIntervalMs 1))
  let w : Wait := ⟨selector, timeoutMs, deadline, poll⟩
  waitIn h w page root (retryBound w (← h.time))

/-- Waits in each root in turn. -/
def waitInAll (h : Host W P H C) (d : Defaults) (selector : String) (timeoutMs : Int)
    (deadline : Rat) (page : P) : List (Option H) → Act W Unit
  | [] => return
  | root :: rest => do
    waitUnder h d selector timeoutMs deadline page root
    waitInAll h d selector timeoutMs deadline page rest

theorem waitInAll_eq_mapM (h : Host W P H C) (d : Defaults) (selector : String) (timeoutMs : Int)
    (deadline : Rat) (page : P) (roots : List (Option H)) :
    waitInAll h d selector timeoutMs deadline page roots =
      (fun _ => ⟨⟩) <$> roots.mapM (waitUnder h d selector timeoutMs deadline page) := by
  induction roots with
  | nil => rfl
  | cons root rest ih => simp [waitInAll, ih, List.mapM_cons]

def waitStep (h : Host W P H C) (d : Defaults) (selector : String) (requested : Value)
    (s : ReplayState P H) : Act W (ReplayState P H) := do
  let timeoutMs ← Act.ofExcept (effectiveTimeout d requested)
  let deadline := h.precision.near ((← h.time) + (← Act.ofExcept (h.precision.seconds timeoutMs)))
  waitInAll h d selector timeoutMs deadline s.page s.scope.roots
  return s

def waitFor : Handler W P H C where
  name := "WaitForStepHandler"
  accept h d
    | .waitFor selector requested => some fun s => some <$> waitStep h d selector requested s
    | _ => none

end Handler
end PageHarvest
