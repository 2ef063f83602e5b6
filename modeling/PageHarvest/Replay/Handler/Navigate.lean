import PageHarvest.Replay.Handler.Basic

/-!
Visiting an address. The visit fails on the blank page and on a status of 400 or more; after it the
scope is the whole document.
-/
namespace PageHarvest.Handler
variable {W P H C : Type}

/-- The failure that a response stands for, if any. -/
def responseFault? (blank : String) (r : PageResponse) : Option Failure :=
  if r.url == blank then some (Cause.blankPage (.text r.url))
  else match r.status with
    | some n => if 400 ≤ n then some (Cause.httpStatus (.int n) (.text r.url)) else none
    | none => none

def statusValue : Option Int → Value
  | some n => .int n
  | none => .null

def navigateStep (h : Host W P H C) (visit : Visit) (s : ReplayState P H) :
    Act W (ReplayState P H) := do
  let r ← h.navigate s.page visit
  h.log .debug "navigate.response" [("url", .text visit.url), ("method", .text visit.method),
    ("status", statusValue r.status), ("final_url", .text r.url)]
  match responseFault? (h.blank s.page) r with
  | some f => Act.fail f
  | none => return s.withScope .document

def navigate : Handler W P H C where
  name := "NavigateStepHandler"
  accept h _
    | .navigate visit => some fun s => some <$> navigateStep h visit s
    | _ => none

end PageHarvest.Handler
