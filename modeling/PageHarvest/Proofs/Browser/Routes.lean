import PageHarvest.Proofs.Browser.Interception

/-!
Which routes are on a browser's page. Whatever is done to its driver, and however visits end, between any two calls
the page has the one route to interceptors while requests are intercepted and none otherwise; and while a visit goes
to its address there is at most its own rewriting route besides, which is newer.
-/
namespace PageHarvest

/-- Whether a call goes to an address, or puts a route on the page or takes one off. -/
def BrowserCall.steers : BrowserCall → Bool
  | .goto .. | .addRoute _ | .dropRoute _ => true
  | _ => false

/-- The routes on a page after some calls, both newest first: those added and not dropped since. The route to
interceptors is one and the same whenever it is added, so that dropping it drops it however often it is there; each
rewriting route is dropped by itself. -/
def routesAfter : List BrowserCall → List Route
  | [] => []
  | .addRoute r :: earlier => r :: routesAfter earlier
  | .dropRoute .intercepted :: earlier => (routesAfter earlier).filter fun r => !(r matches .intercepted)
  | .dropRoute (.rewritten ..) :: earlier => (routesAfter earlier).eraseP (· matches .rewritten ..)
  | _ :: earlier => routesAfter earlier

/-- The addresses that some calls went to, newest first, each with the routes that were there when it was gone to. -/
def departures : List BrowserCall → List (String × List Route)
  | [] => []
  | .goto url _ :: earlier => (url, routesAfter earlier) :: departures earlier
  | _ :: earlier => departures earlier

namespace Visit

/-- Nothing about the request has to be rewritten. -/
def isPlain (v : Visit) : Bool :=
  Text.upper v.method == "GET" && v.postData matches .null

def route (v : Visit) : Route :=
  .rewritten v.url (Text.upper v.method) v.postData

/-- The routes that a visit has of its own while it goes to its address. -/
def rewriting (v : Visit) : List Route :=
  if v.isPlain then [] else [v.route]

end Visit

section Quiet
variable {own earlier : List BrowserCall} (quiet : ∀ call ∈ own, call.steers = false)
include quiet

theorem routesAfter_append_of_quiet : routesAfter (own ++ earlier) = routesAfter earlier := by
  induction own with
  | nil => rfl
  | cons call rest ih =>
    obtain ⟨here, rest_quiet⟩ := List.forall_mem_cons.mp quiet
    rw [List.cons_append, ← ih rest_quiet]
    cases call with
    | goto | addRoute | dropRoute => cases here
    | _ => rfl

theorem departures_append_of_quiet : departures (own ++ earlier) = departures earlier := by
  induction own with
  | nil => rfl
  | cons call rest ih =>
    obtain ⟨here, rest_quiet⟩ := List.forall_mem_cons.mp quiet
    rw [List.cons_append, ← ih rest_quiet]
    cases call with
    | goto | addRoute | dropRoute => cases here
    | _ => rfl

end Quiet

namespace BrowserWorld

/-- Nothing was done to routes since, and nothing was gone to. -/
structure Drifts (w w' : BrowserWorld) : Prop where
  calls : ∃ own, w'.calls = own ++ w.calls ∧ ∀ call ∈ own, call.steers = false
  routes : w'.routes = w.routes
  intercepting : w'.intercepting = w.intercepting

namespace Drifts
open Act (Moves)

theorem of_calls {w w' : BrowserWorld} (own : List BrowserCall) (calls : w'.calls = own ++ w.calls)
    (quiet : ∀ call ∈ own, call.steers = false) (routes : w'.routes = w.routes)
    (intercepting : w'.intercepting = w.intercepting) : Drifts w w' :=
  ⟨⟨own, calls, quiet⟩, routes, intercepting⟩

instance : IsPreorder BrowserWorld Drifts where
  refl _ := of_calls [] rfl nofun rfl rfl
  trans _ _ _ first second := by
    obtain ⟨own, calls, quiet⟩ := first.calls
    obtain ⟨more, calls', quiet'⟩ := second.calls
    refine of_calls (more ++ own) ?_ ?_ (second.routes.trans first.routes)
      (second.intercepting.trans first.intercepting)
    · rw [calls', calls, List.append_assoc]
    · exact List.forall_mem_append.mpr ⟨quiet', quiet⟩

theorem moves_note {call : BrowserCall} (quiet : call.steers = false) : Moves Drifts (note call) :=
  .modify fun _ => of_calls [call] rfl (List.forall_mem_singleton.mpr quiet) rfl rfl

theorem moves_sendVia (c : Conduct) (q : PageRequest) (routes : List Route) :
    Moves Drifts (sendVia c q routes) := by
  induction routes generalizing q with
  | nil => exact .bind (moves_note rfl) fun _ => .pure _
  | cons route rest ih =>
    cases route with
    | rewritten => exact ih _
    | intercepted =>
      refine .bind .get fun w => ?_
      dsimp only
      refine .bind (.modify fun _ => of_calls [] rfl nofun rfl rfl) fun _ => ?_
      split
      · exact .bind (moves_note rfl) fun _ => .pure _
      · exact .bind (moves_note rfl) fun _ => .bind (moves_note rfl) fun _ => .pure _

theorem moves_requestVia (c : Conduct) (q : PageRequest) : Moves Drifts (requestVia c q) :=
  .bind .get fun w => moves_sendVia c q w.routes

theorem moves_fetch (c : Conduct) (url : String) : Moves Drifts (fetch c url) :=
  .bind .get fun _ => moves_requestVia c _

theorem moves_fetchAll (c : Conduct) (urls : List String) : Moves Drifts (fetchAll c urls) := by
  induction urls with
  | nil => exact .pure _
  | cons url rest ih => exact .bind (moves_fetch c url) fun _ => ih

theorem moves_requestAll (c : Conduct) (requests : List PageRequest) :
    Moves Drifts (requestAll c requests) := by
  induction requests with
  | nil => exact .pure _
  | cons q rest ih => exact .bind (moves_requestVia c q) fun _ => ih

theorem moves_page (f : BrowserWorld → BrowserPage) :
    Moves Drifts (modify fun w => { w with page := f w } : Act BrowserWorld PUnit) :=
  .modify fun _ => of_calls [] rfl nofun rfl rfl

end Drifts

/-- A way of going to an address. The call is noted, and what happens then leaves routes alone, but it may take the
page anywhere, and may answer or fail as it likes, at every call anew. -/
structure Goes (go : String → Act BrowserWorld (Option Int)) : Prop where
  drifts : ∀ url w, Drifts { w with calls := .goto url w.navigationTimeoutMs :: w.calls } ((go url).runOn w).2

theorem goes_goto (c : Conduct) : Goes (goto c) where
  drifts url w := by
    have noted : (note (.goto url w.navigationTimeoutMs)).runOn w =
      (.ok ⟨⟩, { w with calls := .goto url w.navigationTimeoutMs :: w.calls }) := rfl
    unfold goto
    rw [Act.runOn_bind, Act.runOn_get]
    dsimp only
    rw [Act.runOn_bind, noted]
    dsimp only
    split
    · exact Act.Moves.pure none _
    · exact Act.Moves.fail _ _
    · refine Act.Moves.bind (Drifts.moves_fetch c url) (fun made => ?_) _
      split
      · exact .bind (Drifts.moves_page _) fun _ => .pure _
      · exact .fail _
    · exact Act.Moves.bind (Drifts.moves_fetch c url) (fun made => .bind (Drifts.moves_fetchAll c _) fun _ =>
        .bind (Drifts.moves_page _) fun _ => .pure _) _
    · exact Act.Moves.bind (Drifts.moves_requestAll c _) (fun _ => .bind (Drifts.moves_fetch c url) fun made =>
        .bind (Drifts.moves_requestAll c _) fun _ => .bind (Drifts.moves_page _) fun _ => .pure _) _

/-- A visit, whatever going to its address is. -/
def visitBy (go : String → Act BrowserWorld (Option Int)) (v : Visit) : Act BrowserWorld (Option Int) := do
  if v.isPlain then go v.url
  else
    addRoute v.route
    let status ← (go v.url).outcome
    dropRewriting v.route
    Act.ofExcept status

def navigateBy (go : String → Act BrowserWorld (Option Int)) (v : Visit) : Act BrowserWorld PageResponse := do
  match ← visitBy go v with
  | some status => return ⟨some status, (← get).page.url⟩
  | none =>
    let url := (← get).page.url
    return ⟨none, if url.isEmpty then blankUrl else url⟩

theorem navigateVia_eq_navigateBy (c : Conduct) (v : Visit) : navigateVia c v = navigateBy (goto c) v := rfl

theorem navigateBy_world (go : String → Act BrowserWorld (Option Int)) (v : Visit) (w : BrowserWorld) :
    ((navigateBy go v).runOn w).2 = ((visitBy go v).runOn w).2 := by
  unfold navigateBy
  rw [Act.runOn_bind]
  rcases (visitBy go v).runOn w with ⟨_ | _ | _, _⟩ <;> rfl

end BrowserWorld

namespace Doing

/-- Where something done goes, with the routes that should be there then, if requests are intercepted or not. -/
def departure (on : Bool) : Doing → List (String × List Route)
  | .visit v => [(v.url, v.rewriting ++ if on then [.intercepted] else [])]
  | _ => []

/-- Where doings go one after another. -/
def departures : Bool → List Doing → List (String × List Route)
  | _, [] => []
  | on, d :: rest => d.departure on ++ departures (switched on d) rest

end Doing

namespace BrowserWorld

/-- What one doing makes of a page. -/
def afterBy (go : String → Act BrowserWorld (Option Int)) (w : BrowserWorld) : Doing → BrowserWorld
  | .switch enabled => ((setInterception enabled).runOn w).2
  | .register i => ((addInterceptor i).runOn w).2
  | .visit v => ((navigateBy go v).runOn w).2

/-- The routes of a page between calls, while requests are intercepted or not. -/
structure Kept (on : Bool) (w : BrowserWorld) : Prop where
  routes : w.routes = if on then [.intercepted] else []
  intercepting : w.intercepting = on
  traced : routesAfter w.calls = w.routes

section Steps
variable {go : String → Act BrowserWorld (Option Int)} {on : Bool} {w : BrowserWorld}

/-- A switch that changes nothing makes no call. -/
theorem Kept.switch (kept : w.Kept on) (enabled : Bool) :
    ((setInterception enabled).runOn w).2.Kept enabled ∧
    departures ((setInterception enabled).runOn w).2.calls = departures w.calls := by
  have traced := kept.traced
  cases w with
  | mk page timeoutMs now routes interceptors intercepting log calls handled =>
    obtain rfl : intercepting = on := kept.intercepting
    obtain rfl : routes = if intercepting then [.intercepted] else [] := kept.routes
    cases intercepting with
    | true =>
      cases enabled with
      | true => exact ⟨⟨rfl, rfl, traced⟩, rfl⟩
      | false =>
        exact ⟨⟨rfl, rfl, congrArg (List.filter fun r : Route => !(r matches .intercepted)) traced⟩, rfl⟩
    | false =>
      cases enabled with
      | true => exact ⟨⟨rfl, rfl, congrArg (Route.intercepted :: ·) traced⟩, rfl⟩
      | false => exact ⟨⟨rfl, rfl, traced⟩, rfl⟩

/-- Going to an address, on a page whose calls tell its routes. -/
theorem Goes.traced (goes : Goes go) (url : String) (traced : routesAfter w.calls = w.routes) :
    ((go url).runOn w).2.routes = w.routes ∧ ((go url).runOn w).2.intercepting = w.intercepting ∧
    routesAfter ((go url).runOn w).2.calls = w.routes ∧
    departures ((go url).runOn w).2.calls = (url, w.routes) :: departures w.calls := by
  have drifts := goes.drifts url w
  obtain ⟨own, calls, quiet⟩ := drifts.calls
  refine ⟨drifts.routes, drifts.intercepting, ?_, ?_⟩
  · rw [calls, routesAfter_append_of_quiet quiet]
    exact traced
  · rw [calls, departures_append_of_quiet quiet]
    show (url, routesAfter w.calls) :: _ = _
    rw [traced]

/-- The world when the rewriting route of a visit has been added. -/
def routed (v : Visit) (w : BrowserWorld) : BrowserWorld :=
  { w with calls := .addRoute v.route :: w.calls, routes := v.route :: w.routes }

theorem visitBy_of_not_plain {v : Visit} (rewrites : v.isPlain = false) :
    ((visitBy go v).runOn w).2 = { ((go v.url).runOn (routed v w)).2 with
      calls := .dropRoute v.route :: ((go v.url).runOn (routed v w)).2.calls
      routes := ((go v.url).runOn (routed v w)).2.routes.eraseP (· matches .rewritten ..) } := by
  unfold visitBy
  rw [if_neg (Bool.not_eq_true _ ▸ rewrites)]
  rfl

/-- Whether going to the address succeeds or fails, the rewriting route is there meanwhile and gone afterwards. -/
theorem Kept.visit (kept : w.Kept on) (goes : Goes go) (v : Visit) :
    ((visitBy go v).runOn w).2.Kept on ∧
    departures ((visitBy go v).runOn w).2.calls =
      (v.url, v.rewriting ++ if on then [.intercepted] else []) :: departures w.calls := by
  unfold Visit.rewriting
  cases plain : v.isPlain with
  | true =>
    obtain ⟨routes, intercepting, traced, gone⟩ := goes.traced v.url kept.traced
    unfold visitBy
    rw [if_pos plain]
    refine ⟨⟨routes.trans kept.routes, intercepting.trans kept.intercepting, traced.trans routes.symm⟩, ?_⟩
    rw [if_pos rfl, gone, kept.routes]
    rfl
  | false =>
    have added : routesAfter (routed v w).calls = (routed v w).routes := congrArg (v.route :: ·) kept.traced
    obtain ⟨routes, intercepting, traced, gone⟩ := goes.traced v.url added
    have restored : (routed v w).routes.eraseP (· matches .rewritten ..) = w.routes := rfl
    rw [visitBy_of_not_plain plain, if_neg Bool.false_ne_true]
    refine ⟨⟨?_, intercepting.trans kept.intercepting, ?_⟩, ?_⟩
    · show ((go v.url).runOn (routed v w)).2.routes.eraseP _ = _
      rw [routes, restored, kept.routes]
    · show (routesAfter ((go v.url).runOn (routed v w)).2.calls).eraseP _ =
        ((go v.url).runOn (routed v w)).2.routes.eraseP _
      rw [routes, traced]
    · show departures ((go v.url).runOn (routed v w)).2.calls = _
      rw [gone, ← kept.routes]
      rfl

/-- What one doing keeps, and where it goes. -/
theorem Kept.after (kept : w.Kept on) (goes : Goes go) (doing : Doing) :
    (afterBy go w doing).Kept (doing.switched on) ∧
    departures (afterBy go w doing).calls = doing.departure on ++ departures w.calls := by
  cases doing with
  | switch enabled => exact kept.switch enabled
  | register i => exact ⟨⟨kept.routes, kept.intercepting, kept.traced⟩, rfl⟩
  | visit v =>
    have visited := kept.visit goes v
    rw [← navigateBy_world] at visited
    exact visited

theorem Kept.foldl (kept : w.Kept on) (goes : Goes go) (doings : List Doing) :
    (doings.foldl (afterBy go) w).Kept (doings.foldl Doing.switched on) ∧
    departures (doings.foldl (afterBy go) w).calls =
      (Doing.departures on doings).reverse ++ departures w.calls := by
  induction doings generalizing on w with
  | nil => exact ⟨kept, rfl⟩
  | cons doing rest ih =>
    obtain ⟨kept', gone⟩ := kept.after goes doing
    obtain ⟨last, gone'⟩ := ih kept'
    refine ⟨last, ?_⟩
    have one : (doing.departure on).reverse = doing.departure on := by cases doing <;> rfl
    rw [List.foldl_cons, gone', gone, Doing.departures, List.reverse_append, one, List.append_assoc]

end Steps

/-- Whatever has been done to the driver of a new page, and however going to addresses ended, the page has one route
to interceptors or none, as the last switch says; and every address was gone to with that route, if it was there, and
on top of it only the route of the visit itself, if it has one. -/
theorem routes_follow_switches {go : String → Act BrowserWorld (Option Int)} (goes : Goes go)
    (page : BrowserPage) (timeoutMs : Int) (now : Rat) (doings : List Doing) :
    let w := doings.foldl (afterBy go) { page, navigationTimeoutMs := timeoutMs, now }
    w.routes = (if Doing.intercepting doings then [.intercepted] else []) ∧
    routesAfter w.calls = w.routes ∧ (departures w.calls).reverse = Doing.departures false doings := by
  have new : Kept false { page, navigationTimeoutMs := timeoutMs, now } := ⟨rfl, rfl, rfl⟩
  obtain ⟨kept, gone⟩ := new.foldl goes doings
  refine ⟨kept.routes, kept.traced, ?_⟩
  rw [gone, List.reverse_append, List.reverse_reverse]
  rfl

/-- A page whose connection never answers. -/
def deadShop : BrowserPage where
  url := blankUrl
  loads := [("http://shop/", .expires "Timeout 30000ms exceeded.")]

/-- A form is sent, and sent again when requests are no longer intercepted. -/
def insistent : List Doing :=
  [.switch true, .switch true, .visit sendForm, .switch false, .visit sendForm, .switch true]

theorem routes_follow_switches_past_failures :
    let start : BrowserWorld := { page := deadShop, navigationTimeoutMs := 30000, now := 0 }
    let w := insistent.foldl (afterBy (goto .scripted)) start
    Goes (goto .scripted) ∧
    ((navigateBy (goto .scripted) sendForm).runOn start).1 =
      .error (Cause.outside (.mk "TimeoutError") "Timeout 30000ms exceeded.") ∧
    w.routes = [.intercepted] ∧ routesAfter w.calls = [.intercepted] ∧
    (departures w.calls).reverse =
      [("http://shop/", [.rewritten "http://shop/" "POST" (.text "tea"), .intercepted]),
        ("http://shop/", [.rewritten "http://shop/" "POST" (.text "tea")])] := by
  intro start w
  have goes := goes_goto .scripted
  obtain ⟨routes, traced, gone⟩ := routes_follow_switches goes deadShop 30000 0 insistent
  exact ⟨goes, rfl, routes, traced.trans routes, gone⟩

end BrowserWorld

end PageHarvest
