import PageHarvest.Browser.Replay
import PageHarvest.Proofs.Fetch.Interception
import PageHarvest.Proofs.Static.Interception

/-!
How a browser's page handles the requests of visits, beside static pages. A route that rewrites a request
is newer than the one that leads to interceptors, so these see it rewritten, and it is gone when the visit
ends. Both kinds of pages ask the same interceptors about the same request, and send it or do not alike.
-/
namespace PageHarvest

/-- One request is sent, and nothing else is needed. -/
inductive BrowserLoad.Single : BrowserLoad → Prop where
  | fetches (status url) : Single (.fetches status url [])
  | breaks (error message) : Single (.breaks error message)

/-- What going to an address comes to on a page. -/
def BrowserPage.loadOf (p : BrowserPage) (url : String) : BrowserLoad :=
  (p.loads.get? url).getD (.fetches 200 none [])

namespace BrowserWorld

def sent? : BrowserCall → Option PageRequest
  | .network q => some q
  | _ => none

def fulfilled? : BrowserCall → Option MadeResponse
  | .fulfill made => some made
  | _ => none

/-- Requests that reached the network, newest first. -/
def sent (w : BrowserWorld) : List PageRequest :=
  w.calls.filterMap sent?

/-- Answers that were made up on the way, newest first. -/
def fulfilled (w : BrowserWorld) : List MadeResponse :=
  w.calls.filterMap fulfilled?

/-- A visit between two worlds, whose request was handled so. -/
structure VisitHandled (h : Handling) (w w' : BrowserWorld) (out : Except Failure PageResponse) : Prop where
  asked : w'.handled = List.replicate h.asked h.request ++ w.handled
  answered : ∀ made, h.answer = some made → w'.sent = w.sent ∧ w'.fulfilled = made :: w.fulfilled ∧
    ∃ url, out = .ok ⟨some made.status, url⟩
  passed : h.answer = none → w'.sent = h.request :: w.sent ∧ w'.fulfilled = w.fulfilled

/-- The interceptors that are asked about requests of the page. -/
def consulted (w : BrowserWorld) : List Interceptor :=
  if w.intercepting then w.interceptors else []

/-- The routes of a page between visits. -/
structure Routed (w : BrowserWorld) : Prop where
  routes : w.routes = if w.intercepting then [.intercepted] else []

/-- Calls that a request comes to after interceptors were asked. -/
def callsFor (on : Bool) (h : Handling) : List BrowserCall :=
  match h.answer with
  | some made => [.fulfill made]
  | none => .network h.request :: if on then [.passOn] else []

section
variable (c : Conduct) {w : BrowserWorld}

/-- A fetch has no data of its own, so that those it is sent with are those it is given. -/
theorem overridden_fetch (url method : String) (postData : Value) (headers : Table String String) :
    (⟨"GET", url, .null, headers⟩ : PageRequest).overridden method postData =
      ⟨method, url, postData, headers⟩ := by
  cases postData <;> rfl

theorem sendVia_runOn (q : PageRequest) (on : Bool) (w : BrowserWorld) :
    (sendVia c q (if on then [.intercepted] else [])).runOn w =
      (.ok (c.handle (if on then w.interceptors else []) q).answer,
        { w with
          handled := List.replicate (c.handle (if on then w.interceptors else []) q).asked q ++ w.handled
          calls := callsFor on (c.handle (if on then w.interceptors else []) q) ++ w.calls }) := by
  cases on with
  | false => rfl
  | true =>
    unfold callsFor Conduct.handle
    rw [if_pos rfl, if_pos rfl, sendVia, Act.runOn_bind, Act.runOn_get]
    dsimp only
    rcases c.ask q w.interceptors with ⟨n, _ | made⟩
    · rfl
    · rfl

/-- Going to an address sends one request, which interceptors see as `q`, and ends with their answer. What
comes before the network, a rewriting route or none, is left to `seen`. -/
theorem goto_runOn {url : String} (single : (w.page.loadOf url).Single) {q : PageRequest} {h : Handling}
    (handled : c.handle w.consulted q = h)
    (seen : ∀ calls, (fetch c url).runOn { w with calls } =
      (sendVia c q (if w.intercepting then [.intercepted] else [])).runOn { w with calls }) :
    ∃ out url', (goto c url).runOn w = (out,
      { w with
        handled := List.replicate h.asked h.request ++ w.handled
        calls := callsFor w.intercepting h ++ .goto url w.navigationTimeoutMs :: w.calls
        page := { w.page with url := url' } }) ∧
      ∀ made, h.answer = some made → out = .ok (some made.status) := by
  have noted : (note (.goto url w.navigationTimeoutMs)).runOn w =
    (.ok ⟨⟩, { w with calls := .goto url w.navigationTimeoutMs :: w.calls }) := rfl
  have fetched := (seen (.goto url w.navigationTimeoutMs :: w.calls)).trans (sendVia_runOn c q _ _)
  unfold BrowserPage.loadOf at single
  unfold goto
  rw [Act.runOn_bind, Act.runOn_get]
  dsimp only
  rw [Act.runOn_bind, noted]
  generalize (w.page.loads.get? url).getD (.fetches 200 none []) = load at single ⊢
  subst handled
  have answer : (c.handle (if w.intercepting then w.interceptors else []) q).answer =
      (c.handle w.consulted q).answer := rfl
  cases single with
  | fetches status final =>
    dsimp only
    rw [Act.runOn_bind, fetched]
    refine ⟨_, _, rfl, fun made same => ?_⟩
    rw [answer, same]
    rfl
  | breaks error message =>
    -- A connection that breaks is only met when no interceptor answers.
    dsimp only
    rw [Act.runOn_bind, fetched, answer]
    cases (c.handle w.consulted q).answer with
    | some made => exact ⟨_, _, rfl, fun _ same => Option.some.inj same ▸ rfl⟩
    | none => exact ⟨_, w.page.url, rfl, nofun⟩

theorem visit_of_plain {v : Visit} (get : Text.upper v.method = "GET") (null : v.postData = .null) :
    visit c v = goto c v.url := by
  refine if_pos ?_
  rw [get, null]
  rfl

theorem visit_of_not_plain {v : Visit} (other : ¬ (Text.upper v.method = "GET" ∧ v.postData = .null)) :
    visit c v = (do
      addRoute (.rewritten v.url (Text.upper v.method) v.postData)
      let status ← (goto c v.url).outcome
      dropRewriting (.rewritten v.url (Text.upper v.method) v.postData)
      Act.ofExcept status) := by
  refine if_neg fun plain => other ?_
  obtain ⟨get, null⟩ := Bool.and_eq_true_iff.mp plain
  refine ⟨beq_iff_eq.mp get, ?_⟩
  generalize v.postData = data at null
  cases data with
  | null => rfl
  | _ => cases null

/-- The route of a visit that is no plain fetch is gone when the visit ends. -/
theorem visit_runOn {v : Visit} (single : (w.page.loadOf v.url).Single) (routed : w.Routed)
    {h : Handling}
    (handled : c.handle w.consulted ⟨Text.upper v.method, v.url, v.postData, w.page.headers⟩ = h) :
    ∃ out url before after, (visit c v).runOn w = (out,
      { w with
        handled := List.replicate h.asked h.request ++ w.handled
        calls := after ++ (callsFor w.intercepting h ++ (before ++ w.calls))
        page := { w.page with url } }) ∧
      (∀ made, h.answer = some made → out = .ok (some made.status)) ∧
      ∀ call ∈ before ++ after, sent? call = none ∧ fulfilled? call = none := by
  by_cases plain : Text.upper v.method = "GET" ∧ v.postData = .null
  · obtain ⟨out, url, run, answered⟩ := goto_runOn c single handled fun calls => by
      rw [plain.1, plain.2, ← routed.routes]
      rfl
    refine ⟨out, url, [.goto v.url w.navigationTimeoutMs], [], ?_, answered, ?_⟩
    · rw [visit_of_plain c plain.1 plain.2, run]
      rfl
    · intro call mem
      cases List.mem_singleton.mp mem
      exact ⟨rfl, rfl⟩
  · generalize route : Route.rewritten v.url (Text.upper v.method) v.postData = rewriting
    have steps : visit c v = (do
        addRoute rewriting
        let status ← (goto c v.url).outcome
        dropRewriting rewriting
        Act.ofExcept status) := by
      rw [← route]
      exact visit_of_not_plain c plain
    have added : (addRoute rewriting).runOn w =
      (.ok ⟨⟩, { w with calls := .addRoute rewriting :: w.calls, routes := rewriting :: w.routes }) := rfl
    -- The rewriting route is the newest and matches, so the request goes on rewritten to the old routes.
    obtain ⟨out, url, run, answered⟩ := goto_runOn c
      (w := { w with calls := .addRoute rewriting :: w.calls, routes := rewriting :: w.routes }) single
      handled fun calls => by
        unfold fetch requestVia
        rw [Act.runOn_bind, Act.runOn_get]
        dsimp only
        rw [Act.runOn_bind, Act.runOn_get]
        dsimp only
        rw [← route, sendVia, if_pos (beq_self_eq_true v.url), overridden_fetch, routed.routes]
    rw [steps, Act.runOn_bind, added]
    dsimp only
    rw [Act.runOn_bind, Act.runOn_outcome, run]
    refine ⟨out, url, [.goto v.url w.navigationTimeoutMs, .addRoute rewriting], [.dropRoute rewriting], ?_,
      answered, ?_⟩
    · subst route
      rfl
    · intro call mem
      simp only [List.cons_append, List.nil_append, List.mem_cons, List.not_mem_nil, or_false] at mem
      rcases mem with rfl | rfl | rfl <;> exact ⟨rfl, rfl⟩

/-- Calls around others that do not count. -/
theorem filterMap_around {α : Type} {f : BrowserCall → Option α} {before after : List BrowserCall}
    (silent : ∀ call ∈ before ++ after, f call = none) (calls rest : List BrowserCall) :
    (after ++ (calls ++ (before ++ rest))).filterMap f = calls.filterMap f ++ rest.filterMap f := by
  have none_before : before.filterMap f = [] :=
    List.filterMap_eq_nil_iff.mpr fun call mem => silent call (List.mem_append_left after mem)
  have none_after : after.filterMap f = [] :=
    List.filterMap_eq_nil_iff.mpr fun call mem => silent call (List.mem_append_right before mem)
  rw [List.filterMap_append, List.filterMap_append, List.filterMap_append, none_before, none_after,
    List.nil_append, List.nil_append]

/-- Nothing that interception depends on is changed. -/
structure Unchanged (w w' : BrowserWorld) : Prop where
  interceptors : w'.interceptors = w.interceptors
  intercepting : w'.intercepting = w.intercepting
  routes : w'.routes = w.routes
  headers : w'.page.headers = w.page.headers
  loads : w'.page.loads = w.page.loads

theorem navigateVia_handled {v : Visit} (single : (w.page.loadOf v.url).Single) (routed : w.Routed) :
    VisitHandled (c.handle w.consulted ⟨Text.upper v.method, v.url, v.postData, w.page.headers⟩) w
      ((navigateVia c v).runOn w).2 ((navigateVia c v).runOn w).1 ∧
    Unchanged w ((navigateVia c v).runOn w).2 := by
  generalize handled : c.handle w.consulted ⟨Text.upper v.method, v.url, v.postData, w.page.headers⟩ = h
  obtain ⟨out, url, before, after, run, answered, silent⟩ := visit_runOn c single routed handled
  generalize ended : ({ w with handled := _, calls := _, page := _ } : BrowserWorld) = w' at run
  obtain ⟨out', run', answered'⟩ : ∃ out', (navigateVia c v).runOn w = (out', w') ∧
      ∀ made, h.answer = some made → ∃ url, out' = .ok ⟨some made.status, url⟩ := by
    unfold navigateVia
    rw [Act.runOn_bind, run]
    cases out with
    | error f => exact ⟨_, rfl, fun made same => nomatch answered made same⟩
    | ok status =>
      cases status with
      | none => exact ⟨_, rfl, fun made same => nomatch answered made same⟩
      | some status =>
        refine ⟨_, rfl, fun made same => ?_⟩
        cases answered made same
        exact ⟨_, rfl⟩
  -- Adding and dropping routes are calls too, but neither sends nor fulfills anything.
  have sent_now : w'.sent = (callsFor w.intercepting h).filterMap sent? ++ w.sent := by
    rw [← ended]
    exact filterMap_around (fun call mem => (silent call mem).1) _ _
  have fulfilled_now : w'.fulfilled = (callsFor w.intercepting h).filterMap fulfilled? ++ w.fulfilled := by
    rw [← ended]
    exact filterMap_around (fun call mem => (silent call mem).2) _ _
  rw [run']
  refine ⟨⟨?_, ?_, ?_⟩, ?_⟩
  · rw [← ended]
  · intro made same
    dsimp only
    rw [sent_now, fulfilled_now]
    unfold callsFor
    rw [same]
    exact ⟨rfl, rfl, answered' made same⟩
  · intro none
    dsimp only
    rw [sent_now, fulfilled_now]
    unfold callsFor
    rw [none]
    cases w.intercepting <;> exact ⟨rfl, rfl⟩
  · subst ended
    exact ⟨rfl, rfl, rfl, rfl, rfl⟩

theorem setInterception_runOn (routed : w.Routed) (enabled : Bool) : ∃ calls,
    (setInterception enabled).runOn w = (.ok ⟨⟩,
      { w with calls, intercepting := enabled, routes := if enabled then [.intercepted] else [] }) := by
  cases w with
  | mk page timeoutMs now routes interceptors intercepting log calls handled =>
    obtain rfl : routes = if intercepting then [.intercepted] else [] := routed.routes
    cases intercepting <;> cases enabled <;> exact ⟨_, rfl⟩

end

/-- What one doing makes of a browser's page, and of what its interceptors have been asked. -/
def after (m : Memory) : BrowserWorld × Asked → Doing → BrowserWorld × Asked
  | (w, past), .switch enabled => (((setInterception enabled).runOn w).2, past)
  | (w, past), .register i => (((addInterceptor i).runOn w).2, past)
  | (w, past), .visit v =>
    let w' := ((navigateVia (m past) v).runOn w).2
    (w', notedSince w.handled w'.handled :: past)

end BrowserWorld

/-- What one doing makes of a static page, and of what its interceptors have been asked. -/
def StaticWorld.after (m : Memory) (client : Site → PageRequest → SitePage) (r : PageRef) :
    StaticWorld × Asked → Doing → StaticWorld × Asked
  | (w, past), .switch enabled => (((setInterception r enabled).runOn w).2, past)
  | (w, past), .register i => (((addInterceptor r i).runOn w).2, past)
  | (w, past), .visit v =>
    let w' := ((navigateVia (.conducted (m past) client) r v).runOn w).2
    (w', notedSince w.handled w'.handled :: past)

/-- A static page and a browser's page to which the same has been done. -/
structure Beside (r : PageRef) (shown : BrowserPage) (doings : List Doing) (w : StaticWorld) (past : Asked)
    (b : BrowserWorld) (past' : Asked) : Prop where
  page : ∃ p, w.pageAt r = some p ∧ p.interceptors = Doing.registered doings ∧
    p.intercepting = Doing.intercepting doings
  interceptors : b.interceptors = Doing.registered doings
  intercepting : b.intercepting = Doing.intercepting doings
  routed : b.Routed
  asked : past'.map (·.map .bare) = past
  alike : ∀ visit ∈ past', ∀ q ∈ visit, q.headers = shown.headers
  headers : b.page.headers = shown.headers
  loads : b.page.loads = shown.loads

namespace Beside
variable {m : Memory} {r : PageRef} {shown : BrowserPage}
  {doings : List Doing} {w : StaticWorld} {b : BrowserWorld} {past past' : Asked}

/-- Interceptors answer alike on both pages, whatever headers the browser adds. -/
theorem ask_eq (beside : Beside r shown doings w past b past') (heedless : m.Heedless shown.headers)
    (v : Visit) (interceptors : List Interceptor) :
    (m past').ask (v.request shown.headers) interceptors = (m past).ask (v.request []) interceptors := by
  apply Conduct.ask_congr
  intro place i
  have own : ∀ q ∈ [v.request shown.headers], q.headers = shown.headers := by
    intro q mem
    rw [List.mem_singleton.mp mem]
    rfl
  rw [heedless past' place i _ (List.forall_mem_cons.mpr ⟨own, beside.alike⟩), beside.asked]
  rfl

/-- Visits that were handled alike leave the pages beside each other. -/
theorem handled (beside : Beside r shown doings w past b past') {v : Visit} {asked : Nat}
    {answer : Option MadeResponse} {w' : StaticWorld} {b' : BrowserWorld}
    {out out' : Except Failure PageResponse}
    (there : StaticWorld.VisitHandled ⟨v.request [], asked, answer⟩ r w w' out)
    (kept : ∃ p', w'.pageAt r = some p' ∧ p'.interceptors = Doing.registered doings ∧
      p'.intercepting = Doing.intercepting doings)
    (there' : BrowserWorld.VisitHandled ⟨v.request shown.headers, asked, answer⟩ b b' out')
    (unchanged : BrowserWorld.Unchanged b b') :
    Beside r shown (doings ++ [.visit v]) w' (notedSince w.handled w'.handled :: past) b'
      (notedSince b.handled b'.handled :: past') := by
  have registered : Doing.registered (doings ++ [.visit v]) = Doing.registered doings :=
    (Doing.registered_append _ _).trans (List.append_nil _)
  have on : Doing.intercepting (doings ++ [.visit v]) = Doing.intercepting doings :=
    Doing.intercepting_append _ _
  rw [there.asked, there'.asked, notedSince_append, notedSince_append]
  constructor
  case page => rw [registered, on]; exact kept
  case interceptors => rw [registered, unchanged.interceptors, beside.interceptors]
  case intercepting => rw [on, unchanged.intercepting, beside.intercepting]
  case routed => exact ⟨by rw [unchanged.routes, unchanged.intercepting, beside.routed.routes]⟩
  case asked =>
    rw [List.map_cons, List.map_replicate, beside.asked]
    rfl
  case alike =>
    refine List.forall_mem_cons.mpr ⟨fun q mem => ?_, beside.alike⟩
    rw [List.eq_of_mem_replicate mem]
    rfl
  case headers => exact unchanged.headers.trans beside.headers
  case loads => exact unchanged.loads.trans beside.loads

theorem visited (client : Site → PageRequest → SitePage) (beside : Beside r shown doings w past b past')
    (heedless : m.Heedless shown.headers) {v : Visit} (away : v.url ≠ blankUrl)
    (single : (shown.loadOf v.url).Single) : ∃ asked answer,
    (v.request []).Consults ((Doing.consulted doings).mapIdx (m past)) asked answer ∧
    (v.request shown.headers).Consults ((Doing.consulted doings).mapIdx (m past')) asked answer ∧
    StaticWorld.VisitHandled ⟨v.request [], asked, answer⟩ r w
      ((StaticWorld.navigateVia (.conducted (m past) client) r v).runOn w).2
      ((StaticWorld.navigateVia (.conducted (m past) client) r v).runOn w).1 ∧
    BrowserWorld.VisitHandled ⟨v.request shown.headers, asked, answer⟩ b
      ((BrowserWorld.navigateVia (m past') v).runOn b).2
      ((BrowserWorld.navigateVia (m past') v).runOn b).1 ∧
    Beside r shown (doings ++ [.visit v]) (StaticWorld.after m client r (w, past) (.visit v)).1
      (StaticWorld.after m client r (w, past) (.visit v)).2 (BrowserWorld.after m (b, past') (.visit v)).1
      (BrowserWorld.after m (b, past') (.visit v)).2 := by
  obtain ⟨p, here, interceptors, intercepting⟩ := beside.page
  -- Both pages consult the interceptors that the doings leave, whatever their own state looks like.
  have consulted : p.consulted = Doing.consulted doings := by
    unfold StaticPage.consulted Doing.consulted
    rw [interceptors, intercepting]
  have consulted' : b.consulted = Doing.consulted doings := by
    unfold BrowserWorld.consulted Doing.consulted
    rw [beside.interceptors, beside.intercepting]
  obtain ⟨there, p', here', kept, kept'⟩ := StaticWorld.navigateVia_handled here away (m past) client
  have loads : (b.page.loadOf v.url).Single := by
    unfold BrowserPage.loadOf
    rw [beside.loads]
    exact single
  obtain ⟨there', unchanged⟩ := BrowserWorld.navigateVia_handled (m past') loads beside.routed
  rw [consulted] at there
  rw [consulted', beside.headers] at there'
  have asked := (m past).consults_ask (Doing.consulted doings) (v.request [])
  have asked' := (m past').consults_ask (Doing.consulted doings) (v.request shown.headers)
  -- The two requests differ in their headers only, so one outcome of asking serves both pages.
  have same := beside.ask_eq heedless v (Doing.consulted doings)
  have there : StaticWorld.VisitHandled ⟨v.request [], _, _⟩ r w _ _ := there
  have there' : BrowserWorld.VisitHandled ⟨v.request shown.headers,
    ((m past').ask (v.request shown.headers) (Doing.consulted doings)).1,
    ((m past').ask (v.request shown.headers) (Doing.consulted doings)).2⟩ b _ _ := there'
  rw [same] at asked' there'
  exact ⟨_, _, asked, asked', there, there',
    beside.handled there ⟨p', here', kept.trans interceptors, kept'.trans intercepting⟩ there' unchanged⟩

theorem switched (m : Memory) (client : Site → PageRequest → SitePage)
    (beside : Beside r shown doings w past b past') (enabled : Bool) :
    Beside r shown (doings ++ [.switch enabled])
      (StaticWorld.after m client r (w, past) (.switch enabled)).1 past
      (BrowserWorld.after m (b, past') (.switch enabled)).1 past' := by
  obtain ⟨p, here, interceptors, -⟩ := beside.page
  obtain ⟨pages, run, here'⟩ := StaticWorld.changePage_runOn here fun p => { p with intercepting := enabled }
  obtain ⟨calls, run'⟩ := BrowserWorld.setInterception_runOn beside.routed enabled
  have registered : Doing.registered (doings ++ [.switch enabled]) = Doing.registered doings :=
    (Doing.registered_append _ _).trans (List.append_nil _)
  have on : Doing.intercepting (doings ++ [.switch enabled]) = enabled := Doing.intercepting_append _ _
  unfold StaticWorld.after StaticWorld.setInterception BrowserWorld.after
  dsimp only
  rw [run, run']
  exact ⟨⟨_, here', interceptors.trans registered.symm, on.symm⟩, beside.interceptors.trans registered.symm,
    on.symm, ⟨rfl⟩, beside.asked, beside.alike, beside.headers, beside.loads⟩

theorem registered (m : Memory) (client : Site → PageRequest → SitePage)
    (beside : Beside r shown doings w past b past') (i : Interceptor) :
    Beside r shown (doings ++ [.register i])
      (StaticWorld.after m client r (w, past) (.register i)).1 past
      (BrowserWorld.after m (b, past') (.register i)).1 past' := by
  obtain ⟨p, here, interceptors, intercepting⟩ := beside.page
  obtain ⟨pages, run, here'⟩ := StaticWorld.changePage_runOn here
    fun p => { p with interceptors := p.interceptors ++ [i] }
  have registered : Doing.registered (doings ++ [.register i]) = Doing.registered doings ++ [i] :=
    Doing.registered_append _ _
  have on : Doing.intercepting (doings ++ [.register i]) = Doing.intercepting doings :=
    Doing.intercepting_append _ _
  unfold StaticWorld.after StaticWorld.addInterceptor
  dsimp only
  rw [run]
  refine ⟨⟨_, here', ?_, intercepting.trans on.symm⟩, ?_, beside.intercepting.trans on.symm,
    ⟨beside.routed.routes⟩, beside.asked, beside.alike, beside.headers, beside.loads⟩
  · rw [registered, interceptors]
  · rw [registered, ← beside.interceptors]
    rfl

theorem new (w₀ : StaticWorld) (shown : BrowserPage) (timeoutMs : Int) (now : Rat) {w₁ : StaticWorld}
    (opened : w₀.openPage [] false = (r, w₁)) :
    Beside r shown [] w₁ [] { page := shown, navigationTimeoutMs := timeoutMs, now } [] := by
  obtain ⟨rfl, rfl⟩ := Prod.mk.inj opened
  exact ⟨⟨_, Array.getElem?_push_size, rfl, rfl⟩, rfl, rfl, ⟨rfl⟩, rfl, nofun, rfl, rfl⟩

theorem of_foldl (client : Site → PageRequest → SitePage) (beside : Beside r shown [] w past b past')
    (heedless : m.Heedless shown.headers)
    (fits : ∀ v, .visit v ∈ doings → v.url ≠ blankUrl ∧ (shown.loadOf v.url).Single) :
    Beside r shown doings (doings.foldl (StaticWorld.after m client r) (w, past)).1
      (doings.foldl (StaticWorld.after m client r) (w, past)).2
      (doings.foldl (BrowserWorld.after m) (b, past')).1
      (doings.foldl (BrowserWorld.after m) (b, past')).2 := by
  -- Doings grow at their end, where the invariant speaks of those before.
  induction doings using List.reverseRecOn with
  | nil => exact beside
  | append_singleton before d ih =>
    rw [List.foldl_append, List.foldl_append]
    have before := ih fun v mem => fits v (List.mem_append_left _ mem)
    cases d with
    | switch enabled => exact switched m client before enabled
    | register i => exact registered m client before i
    | visit v =>
      obtain ⟨away, single⟩ := fits v (List.mem_append_right _ List.mem_cons_self)
      obtain ⟨_, _, -, -, -, -, next⟩ := visited client before heedless away single
      exact next

end Beside

/-- A static page and a browser's page, both new, intercept alike. Whatever has been done to both, at a visit
the interceptors registered so far are asked in order about the same request, if requests are intercepted.
Both take the first answer and send nothing, or both send that request. -/
theorem drivers_intercept_alike (m : Memory) (client : Site → PageRequest → SitePage) (w₀ : StaticWorld)
    (shown : BrowserPage) (timeoutMs : Int) (now : Rat) (heedless : m.Heedless shown.headers)
    {doings : List Doing} {v : Visit}
    (fits : ∀ v', .visit v' ∈ doings ++ [.visit v] → v'.url ≠ blankUrl ∧ (shown.loadOf v'.url).Single)
    {r : PageRef} {w₁ w : StaticWorld} {b : BrowserWorld} {past past' : Asked}
    (opened : w₀.openPage [] false = (r, w₁))
    (done : doings.foldl (StaticWorld.after m client r) (w₁, []) = (w, past))
    (done' : doings.foldl (BrowserWorld.after m)
      ({ page := shown, navigationTimeoutMs := timeoutMs, now }, []) = (b, past')) :
    ∃ asked answer,
      (v.request []).Consults ((Doing.consulted doings).mapIdx (m past)) asked answer ∧
      (v.request shown.headers).Consults ((Doing.consulted doings).mapIdx (m past')) asked answer ∧
      StaticWorld.VisitHandled ⟨v.request [], asked, answer⟩ r w
        ((StaticWorld.navigateVia (.conducted (m past) client) r v).runOn w).2
        ((StaticWorld.navigateVia (.conducted (m past) client) r v).runOn w).1 ∧
      BrowserWorld.VisitHandled ⟨v.request shown.headers, asked, answer⟩ b
        ((BrowserWorld.navigateVia (m past') v).runOn b).2
        ((BrowserWorld.navigateVia (m past') v).runOn b).1 := by
  have beside := Beside.of_foldl client (Beside.new w₀ shown timeoutMs now opened) heedless fun v' mem =>
    fits v' (List.mem_append_left _ mem)
  rw [done, done'] at beside
  obtain ⟨away, single⟩ := fits v (List.mem_append_right _ List.mem_cons_self)
  obtain ⟨asked, answer, consulted, consulted', there, there', -⟩ :=
    beside.visited client heedless away single
  exact ⟨asked, answer, consulted, consulted', there, there'⟩

/-- Interceptors that leave the first request alone. -/
def lateMemory : Memory :=
  fun past _ i q => if past.isEmpty then none else i.answer? q

def refuseForms : Interceptor :=
  [{ part := none, method := some "POST", response := { status := 403, body := "<p>no" } }]

def sendForm : Visit :=
  ⟨"http://shop/", "post", .text "tea"⟩

def beforeForm : List Doing :=
  [.register [], .register refuseForms, .switch true, .visit sendForm]

def siteAnswer (site : Site) (q : PageRequest) : SitePage :=
  site.page q.url

/-- A page of a browser that says which browser it is. -/
def namedBrowser : BrowserPage :=
  { url := blankUrl, headers := [("user-agent", "teapot")] }

/-- A static page on which this has been done. -/
def doneStatic (m : Memory) (doings : List Doing) : StaticWorld × Asked :=
  doings.foldl (StaticWorld.after m siteAnswer (.page 0))
    ((StaticWorld.openPage { site := [], start := 0, now := 0 } [] false).2, [])

/-- The page of the named browser on which this has been done. -/
def doneNamed (m : Memory) (doings : List Doing) : BrowserWorld × Asked :=
  doings.foldl (BrowserWorld.after m) ({ page := namedBrowser, navigationTimeoutMs := 30000, now := 0 }, [])

theorem lateMemory_heedless (headers : Table String String) : lateMemory.Heedless headers := by
  intro past place i q _
  have past_same : (past.map (·.map PageRequest.bare)).isEmpty = past.isEmpty := by
    cases past <;> rfl
  unfold lateMemory
  rw [past_same]
  rfl

/-- The browser names itself and the static page does not, and of that interceptors take no heed. -/
theorem drivers_intercept_alike_at_second_form : ∃ made, made.status = 403 ∧
    StaticWorld.VisitHandled ⟨sendForm.request [], 2, some made⟩ (.page 0) (doneStatic lateMemory beforeForm).1
      ((StaticWorld.navigateVia (.conducted (lateMemory (doneStatic lateMemory beforeForm).2) siteAnswer)
        (.page 0) sendForm).runOn (doneStatic lateMemory beforeForm).1).2
      ((StaticWorld.navigateVia (.conducted (lateMemory (doneStatic lateMemory beforeForm).2) siteAnswer)
        (.page 0) sendForm).runOn (doneStatic lateMemory beforeForm).1).1 ∧
    BrowserWorld.VisitHandled ⟨sendForm.request [("user-agent", "teapot")], 2, some made⟩
      (doneNamed lateMemory beforeForm).1
      ((BrowserWorld.navigateVia (lateMemory (doneNamed lateMemory beforeForm).2) sendForm).runOn
        (doneNamed lateMemory beforeForm).1).2
      ((BrowserWorld.navigateVia (lateMemory (doneNamed lateMemory beforeForm).2) sendForm).runOn
        (doneNamed lateMemory beforeForm).1).1 ∧
    (doneStatic lateMemory beforeForm).1.requests.length = 1 ∧
    (doneNamed lateMemory beforeForm).1.sent.length = 1 := by
  have fits : ∀ v, .visit v ∈ beforeForm ++ [.visit sendForm] →
      v.url ≠ blankUrl ∧ (namedBrowser.loadOf v.url).Single := by
    intro v mem
    have same : v = sendForm := by simpa [beforeForm] using mem
    rw [same]
    exact ⟨by decide, .fetches 200 none⟩
  obtain ⟨asked, answer, consulted, -, there, there'⟩ := drivers_intercept_alike lateMemory siteAnswer
    { site := [], start := 0, now := 0 } namedBrowser 30000 0 (lateMemory_heedless _) fits
    (Prod.mk.eta (p := StaticWorld.openPage { site := [], start := 0, now := 0 } [] false)).symm
    (Prod.mk.eta (p := doneStatic lateMemory beforeForm)).symm
    (Prod.mk.eta (p := doneNamed lateMemory beforeForm)).symm
  have two : ((sendForm.request []).ask
    ((Doing.consulted beforeForm).mapIdx (lateMemory (doneStatic lateMemory beforeForm).2))).1 = 2 := by
    decide +kernel
  have refused : ((sendForm.request []).ask ((Doing.consulted beforeForm).mapIdx
    (lateMemory (doneStatic lateMemory beforeForm).2))).2.map (·.status) = some 403 := by
    decide +kernel
  rw [consulted.ask_eq] at two refused
  obtain ⟨made, rfl, status⟩ := Option.map_eq_some_iff.mp refused
  cases two
  exact ⟨made, status, there, there', by decide +kernel, by decide +kernel⟩

/-- Interceptors that answer whoever says which browser it is. -/
def askName : Memory :=
  fun _ _ _ q => if q.headers.has "user-agent" then some { status := 418 } else none

def beforeName : List Doing :=
  [.register [], .switch true]

/-- An interceptor that heeds headers tells the pages apart: a static page shows it none. It is asked once by
each, answers the browser alone, and only the static page sends the request. -/
theorem headers_tell_pages_apart :
    (¬ ∃ asked answer,
      (sendForm.request []).Consults
        ((Doing.consulted beforeName).mapIdx (askName (doneStatic askName beforeName).2)) asked answer ∧
      (sendForm.request [("user-agent", "teapot")]).Consults
        ((Doing.consulted beforeName).mapIdx (askName (doneNamed askName beforeName).2)) asked answer) ∧
    (doneStatic askName (beforeName ++ [.visit sendForm])).1.handled.length = 1 ∧
    (doneNamed askName (beforeName ++ [.visit sendForm])).1.handled.length = 1 ∧
    (doneStatic askName (beforeName ++ [.visit sendForm])).1.requests.length = 1 ∧
    (doneNamed askName (beforeName ++ [.visit sendForm])).1.sent.length = 0 := by
  refine ⟨?_, by decide +kernel, by decide +kernel, by decide +kernel, by decide +kernel⟩
  rintro ⟨asked, answer, consulted, consulted'⟩
  have unanswered := congrArg (·.2.isSome) consulted.ask_eq
  have answered := congrArg (·.2.isSome) consulted'.ask_eq
  have differ : ((sendForm.request []).ask ((Doing.consulted beforeName).mapIdx
      (askName (doneStatic askName beforeName).2))).2.isSome = false ∧
      ((sendForm.request [("user-agent", "teapot")]).ask ((Doing.consulted beforeName).mapIdx
        (askName (doneNamed askName beforeName).2))).2.isSome = true := by
    decide +kernel
  dsimp only at unanswered answered
  rw [differ.1] at unanswered
  rw [differ.2, ← unanswered] at answered
  cases answered

end PageHarvest
