import PageHarvest.Proofs.Browser.Interception

/-!
Which requests a visit rewrites. Its route goes by the address alone, so that whatever a page requests of
the address that is visited is rewritten as well, for as long as the visit lasts.
-/
namespace PageHarvest

namespace PageRequest

/-- The request of a page itself, before it is rewritten. -/
def fetching (headers : Table String String) (url : String) : PageRequest :=
  ⟨"GET", url, .null, headers⟩

theorem overridden_eq_self_iff {q : PageRequest} {method : String} {postData : Value} :
    q.overridden method postData = q ↔ q.method = method ∧ (postData = .null ∨ q.postData = postData) := by
  cases q with
  | mk own url data headers =>
    unfold overridden
    dsimp only
    rw [mk.injEq]
    cases postData with
    | null => simp [eq_comm]
    | _ => simp [eq_comm]

end PageRequest

namespace Visit

/-- A request of the page as it goes on its way during a visit that is no plain fetch. -/
def rewritten (v : Visit) (q : PageRequest) : PageRequest :=
  if q.url == v.url then q.overridden (Text.upper v.method) v.postData else q

theorem rewritten_fetching (v : Visit) (headers : Table String String) :
    v.rewritten (.fetching headers v.url) = v.request headers :=
  (if_pos (beq_self_eq_true v.url)).trans (BrowserWorld.overridden_fetch ..)

/-- The route spares requests to other addresses, and those that say already what it would have them say. -/
theorem rewritten_eq_self_iff {v : Visit} {q : PageRequest} :
    v.rewritten q = q ↔ (q.url = v.url →
      q.method = Text.upper v.method ∧ (v.postData = .null ∨ q.postData = v.postData)) := by
  unfold rewritten
  by_cases same : q.url = v.url
  · rw [if_pos (beq_iff_eq.mpr same), PageRequest.overridden_eq_self_iff]
    exact ⟨fun h _ => h, fun h => h same⟩
  · rw [if_neg (mt beq_iff_eq.mp same)]
    exact ⟨fun _ h => absurd h same, fun _ => rfl⟩

end Visit

namespace BrowserLoad

/-- What the page requests before its own request is made. -/
def before : BrowserLoad → List PageRequest
  | .talks _ _ before _ => before
  | _ => []

/-- The request for the page itself, if it is made. -/
def own (headers : Table String String) (url : String) : BrowserLoad → List PageRequest
  | .nothing | .expires _ => []
  | _ => [.fetching headers url]

/-- What the page requests after its own request. -/
def after (headers : Table String String) : BrowserLoad → List PageRequest
  | .fetches _ _ needed => needed.map (.fetching headers)
  | .talks _ _ _ after => after
  | _ => []

/-- All that is requested while going to an address, in order. -/
def requests (headers : Table String String) (url : String) (load : BrowserLoad) : List PageRequest :=
  load.before ++ (load.own headers url ++ load.after headers)

/-- The request for the page as the visit wants it, among the others as the page gave them. -/
def intended (headers : Table String String) (v : Visit) (load : BrowserLoad) : List PageRequest :=
  load.before ++ ((load.own headers v.url).map (fun _ => v.request headers) ++ load.after headers)

theorem own_rewritten (headers : Table String String) (v : Visit) (load : BrowserLoad) :
    (load.own headers v.url).map v.rewritten = (load.own headers v.url).map fun _ => v.request headers := by
  refine List.map_congr_left fun q mem => ?_
  obtain rfl : q = .fetching headers v.url := by
    cases load with
    | nothing => cases mem
    | expires message => cases mem
    | _ => exact List.mem_singleton.mp mem
  exact v.rewritten_fetching headers

/-- What a visit wants is what goes on its way, unless the page speaks otherwise to the same address. -/
theorem rewritten_requests_iff {headers : Table String String} {v : Visit} {load : BrowserLoad} :
    (load.requests headers v.url).map v.rewritten = load.intended headers v ↔
      ∀ q ∈ load.before ++ load.after headers, q.url = v.url →
        q.method = Text.upper v.method ∧ (v.postData = .null ∨ q.postData = v.postData) := by
  have spared : ∀ qs : List PageRequest, qs.map v.rewritten = qs ↔ ∀ q ∈ qs, v.rewritten q = q :=
    fun qs => by rw [← List.map_inj_left, List.map_id']
  simp only [← Visit.rewritten_eq_self_iff]
  unfold requests intended
  rw [List.map_append, List.map_append, own_rewritten, List.forall_mem_append, ← spared, ← spared]
  constructor
  · intro same
    obtain ⟨before, rest⟩ := List.append_inj same (List.length_map ..)
    exact ⟨before, List.append_cancel_left rest⟩
  · rintro ⟨before, after⟩
    rw [before, after]

end BrowserLoad

/-- Interceptors that answer nothing. -/
def Conduct.silent : Conduct :=
  fun _ _ _ => none

theorem Conduct.silent_handle (interceptors : List Interceptor) (q : PageRequest) :
    (silent.handle interceptors q).answer = none := by
  have consults := silent.consults_ask interceptors q
  unfold handle
  dsimp only
  generalize (silent.ask q interceptors).1 = n at consults
  generalize (silent.ask q interceptors).2 = answer at consults ⊢
  generalize all : interceptors.mapIdx silent = answerers at consults
  cases consults with
  | passed => rfl
  | @answered before a after made quiet answers =>
    have mem : a ∈ interceptors.mapIdx silent := all ▸ List.mem_append_right before List.mem_cons_self
    obtain ⟨place, inside, rfl⟩ := List.mem_mapIdx.mp mem
    cases answers

def Handling.sent? (h : Handling) : Option PageRequest :=
  if h.answer.isSome then none else some h.request

namespace BrowserWorld

/-- Requests went on their way and were handled so, oldest first, and nothing else was requested. -/
structure Passed (hs : List Handling) (w w' : BrowserWorld) : Prop where
  handled : w'.handled = (hs.reverse.flatMap fun h => List.replicate h.asked h.request) ++ w.handled
  sent : w'.sent = hs.reverse.filterMap Handling.sent? ++ w.sent
  fulfilled : w'.fulfilled = hs.reverse.filterMap Handling.answer ++ w.fulfilled
  unchanged : Unchanged w w'

section
variable {w w' w'' : BrowserWorld} {hs hs' : List Handling}

theorem Unchanged.trans (first : Unchanged w w') (then_ : Unchanged w' w'') : Unchanged w w'' where
  interceptors := then_.interceptors.trans first.interceptors
  intercepting := then_.intercepting.trans first.intercepting
  routes := then_.routes.trans first.routes
  headers := then_.headers.trans first.headers
  loads := then_.loads.trans first.loads

theorem Unchanged.consulted (unchanged : Unchanged w w') : w'.consulted = w.consulted := by
  unfold BrowserWorld.consulted
  rw [unchanged.interceptors, unchanged.intercepting]

theorem Passed.trans (first : Passed hs w w') (then_ : Passed hs' w' w'') : Passed (hs ++ hs') w w'' where
  handled := by
    rw [then_.handled, first.handled, List.reverse_append, List.flatMap_append, List.append_assoc]
  sent := by rw [then_.sent, first.sent, List.reverse_append, List.filterMap_append, List.append_assoc]
  fulfilled := by
    rw [then_.fulfilled, first.fulfilled, List.reverse_append, List.filterMap_append, List.append_assoc]
  unchanged := first.unchanged.trans then_.unchanged

/-- What the calls that were added send and answer is all that a world tells of them. -/
theorem Passed.of_calls (calls : List BrowserCall) (noted : w'.calls = calls ++ w.calls)
    (sends : calls.filterMap sent? = hs.reverse.filterMap Handling.sent?)
    (fulfills : calls.filterMap fulfilled? = hs.reverse.filterMap Handling.answer)
    (handled : w'.handled = (hs.reverse.flatMap fun h => List.replicate h.asked h.request) ++ w.handled)
    (unchanged : Unchanged w w') : Passed hs w w' where
  handled := handled
  sent := by rw [BrowserWorld.sent, noted, List.filterMap_append, sends]; rfl
  fulfilled := by rw [BrowserWorld.fulfilled, noted, List.filterMap_append, fulfills]; rfl
  unchanged := unchanged

theorem sent_callsFor (on : Bool) (h : Handling) :
    (callsFor on h).filterMap sent? = [h].filterMap Handling.sent? := by
  rcases h with ⟨q, n, _ | made⟩
  · cases on <;> rfl
  · rfl

theorem fulfilled_callsFor (on : Bool) (h : Handling) :
    (callsFor on h).filterMap fulfilled? = [h].filterMap Handling.answer := by
  rcases h with ⟨q, n, _ | made⟩
  · cases on <;> rfl
  · rfl

end

/-- A page during a visit whose requests are rewritten. -/
structure Visited (v : Visit) (w : BrowserWorld) : Prop where
  routes : w.routes = .rewritten v.url (Text.upper v.method) v.postData ::
    if w.intercepting then [.intercepted] else []

theorem Unchanged.visited {v : Visit} {w w' : BrowserWorld} (unchanged : Unchanged w w')
    (visited : w.Visited v) : w'.Visited v where
  routes := by rw [unchanged.routes, visited.routes, unchanged.intercepting]

section
variable (c : Conduct) {v : Visit} {w : BrowserWorld}

/-- How requests fare on a page during a visit. -/
def handlings (v : Visit) (w : BrowserWorld) (requests : List PageRequest) : List Handling :=
  (requests.map v.rewritten).map (c.handle w.consulted)

/-- These requests are made during a visit, in order, and none besides. -/
def Requested (v : Visit) (requests : List PageRequest) (w w' : BrowserWorld) : Prop :=
  Passed (handlings c v w requests) w w'

variable {c}

theorem Requested.of_quiet {w' : BrowserWorld} (calls : List BrowserCall)
    (quiet : ∀ call ∈ calls, sent? call = none ∧ fulfilled? call = none) (noted : w'.calls = calls ++ w.calls)
    (same : w'.handled = w.handled) (unchanged : Unchanged w w') : Requested c v [] w w' :=
  .of_calls calls noted (List.filterMap_eq_nil_iff.mpr fun call mem => (quiet call mem).1)
    (List.filterMap_eq_nil_iff.mpr fun call mem => (quiet call mem).2) same unchanged

theorem Requested.refl (c : Conduct) (v : Visit) (w : BrowserWorld) : Requested c v [] w w :=
  .of_quiet [] nofun rfl rfl ⟨rfl, rfl, rfl, rfl, rfl⟩

theorem Requested.trans {qs rs : List PageRequest} {w' w'' : BrowserWorld}
    (first : Requested c v qs w w') (then_ : Requested c v rs w' w'') :
    Requested c v (qs ++ rs) w w'' := by
  unfold Requested handlings at first then_ ⊢
  rw [first.unchanged.consulted] at then_
  rw [List.map_append, List.map_append]
  exact first.trans then_

theorem Requested.of_page {w' : BrowserWorld} {qs : List PageRequest} (requested : Requested c v qs w w')
    (url : String) : Requested c v qs w { w' with page := { w'.page with url } } where
  handled := requested.handled
  sent := requested.sent
  fulfilled := requested.fulfilled
  unchanged := requested.unchanged.trans ⟨rfl, rfl, rfl, rfl, rfl⟩

/-- The rewriting route is the newest. Interceptors see what it leaves of a request. -/
theorem requestVia_runOn (visited : w.Visited v) (q : PageRequest) : ∃ w',
    (requestVia c q).runOn w = (.ok (c.handle w.consulted (v.rewritten q)).answer, w') ∧
    Requested c v [q] w w' := by
  have sends : (requestVia c q).runOn w =
      (sendVia c (v.rewritten q) (if w.intercepting then [.intercepted] else [])).runOn w := by
    unfold requestVia
    rw [Act.runOn_bind, Act.runOn_get]
    dsimp only
    rw [visited.routes, sendVia]
    rfl
  rw [sends, sendVia_runOn]
  exact ⟨_, rfl, .of_calls _ rfl (sent_callsFor _ _) (fulfilled_callsFor _ _)
    (congrArg (· ++ w.handled) (List.flatMap_singleton ..).symm) ⟨rfl, rfl, rfl, rfl, rfl⟩⟩

theorem requestAll_runOn (visited : w.Visited v) (qs : List PageRequest) : ∃ w',
    (requestAll c qs).runOn w = (.ok ⟨⟩, w') ∧ Requested c v qs w w' := by
  induction qs generalizing w with
  | nil => exact ⟨w, rfl, .refl c v w⟩
  | cons q rest ih =>
    obtain ⟨w', run, one⟩ := requestVia_runOn visited q
    obtain ⟨w'', runs, others⟩ := ih (one.unchanged.visited visited)
    rw [requestAll, Act.runOn_bind, run]
    exact ⟨w'', runs, one.trans others⟩

theorem fetch_runOn (visited : w.Visited v) (url : String) : ∃ w' answer,
    (fetch c url).runOn w = (.ok answer, w') ∧ Requested c v [.fetching w.page.headers url] w w' := by
  obtain ⟨w', run, requested⟩ := requestVia_runOn (c := c) visited (.fetching w.page.headers url)
  exact ⟨w', _, run, requested⟩

theorem fetchAll_runOn (visited : w.Visited v) (urls : List String) : ∃ w',
    (fetchAll c urls).runOn w = (.ok ⟨⟩, w') ∧
    Requested c v (urls.map (.fetching w.page.headers)) w w' := by
  induction urls generalizing w with
  | nil => exact ⟨w, rfl, .refl c v w⟩
  | cons url rest ih =>
    obtain ⟨w', answer, run, one⟩ := fetch_runOn (c := c) visited url
    obtain ⟨w'', runs, others⟩ := ih (one.unchanged.visited visited)
    rw [fetchAll, Act.runOn_bind, run]
    rw [one.unchanged.headers] at others
    exact ⟨w'', runs, one.trans others⟩

/-- Going to an address makes the requests of what that comes to, whether or not it succeeds. -/
theorem goto_requested (visited : w.Visited v) (url : String) :
    Requested c v ((w.page.loadOf url).requests w.page.headers url) w ((goto c url).runOn w).2 := by
  have noted : (note (.goto url w.navigationTimeoutMs)).runOn w =
    (.ok ⟨⟩, { w with calls := .goto url w.navigationTimeoutMs :: w.calls }) := rfl
  have silent : Requested c v [] w { w with calls := .goto url w.navigationTimeoutMs :: w.calls } :=
    .of_quiet [.goto url w.navigationTimeoutMs] (by simp [sent?, fulfilled?]) rfl rfl
      ⟨rfl, rfl, rfl, rfl, rfl⟩
  unfold goto
  rw [Act.runOn_bind, Act.runOn_get]
  dsimp only
  rw [Act.runOn_bind, noted]
  dsimp only
  unfold BrowserPage.loadOf
  have visited := silent.unchanged.visited visited
  generalize ({ w with calls := _ } : BrowserWorld) = w₁ at silent visited ⊢
  rw [← silent.unchanged.headers]
  rw [← List.nil_append (BrowserLoad.requests _ _ _)]
  refine silent.trans ?_
  cases (w.page.loads.get? url).getD (.fetches 200 none []) with
  | nothing => exact .refl c v w₁
  | expires message => exact .refl c v w₁
  | breaks error message =>
    obtain ⟨w₂, answer, run, own⟩ := fetch_runOn (c := c) visited url
    dsimp only
    rw [Act.runOn_bind, run]
    cases answer with
    | none => exact own
    | some made => exact own.of_page url
  | fetches status final needed =>
    obtain ⟨w₂, answer, run, own⟩ := fetch_runOn (c := c) visited url
    obtain ⟨w₃, runs, others⟩ := fetchAll_runOn (c := c) (own.unchanged.visited visited) needed
    rw [own.unchanged.headers] at others
    dsimp only
    rw [Act.runOn_bind, run]
    dsimp only
    rw [Act.runOn_bind, runs]
    exact (own.trans others).of_page _
  | talks status final before after =>
    obtain ⟨w₂, runs, early⟩ := requestAll_runOn (c := c) visited before
    have visited := early.unchanged.visited visited
    obtain ⟨w₃, answer, run, own⟩ := fetch_runOn (c := c) visited url
    obtain ⟨w₄, runs', late⟩ := requestAll_runOn (c := c) (own.unchanged.visited visited) after
    rw [early.unchanged.headers] at own
    dsimp only
    rw [Act.runOn_bind, runs]
    dsimp only
    rw [Act.runOn_bind, run]
    dsimp only
    rw [Act.runOn_bind, runs']
    exact (early.trans (own.trans late)).of_page _

/-- The rewriting route comes before the visit's requests and is gone after them. -/
theorem Requested.between_routes {requests : List PageRequest} {route : Route} {w₁ w₂ : BrowserWorld}
    (rewrites : route matches .rewritten ..)
    (added : w₁ = { w with calls := .addRoute route :: w.calls, routes := route :: w.routes })
    (requested : Requested c v requests w₁ w₂) :
    Requested c v requests w
      { w₂ with
        calls := .dropRoute route :: w₂.calls, routes := w₂.routes.eraseP (· matches .rewritten ..) } := by
  subst added
  exact
    { handled := requested.handled
      sent := requested.sent
      fulfilled := requested.fulfilled
      unchanged :=
        { interceptors := requested.unchanged.interceptors
          intercepting := requested.unchanged.intercepting
          routes := (congrArg _ requested.unchanged.routes).trans (List.eraseP_cons_of_pos rewrites)
          headers := requested.unchanged.headers
          loads := requested.unchanged.loads } }

theorem visit_requested (routed : w.Routed)
    (other : ¬ (Text.upper v.method = "GET" ∧ v.postData = .null)) :
    Requested c v ((w.page.loadOf v.url).requests w.page.headers v.url) w ((visit c v).runOn w).2 := by
  generalize route : Route.rewritten v.url (Text.upper v.method) v.postData = rewriting
  generalize added : ({ w with calls := .addRoute rewriting :: w.calls, routes := rewriting :: w.routes } :
    BrowserWorld) = w₁
  have visited : w₁.Visited v := by
    subst added route
    exact ⟨congrArg _ routed.routes⟩
  have requested := goto_requested (c := c) visited v.url
  have run : ((visit c v).runOn w).2 = { ((goto c v.url).runOn w₁).2 with
      calls := .dropRoute rewriting :: ((goto c v.url).runOn w₁).2.calls
      routes := ((goto c v.url).runOn w₁).2.routes.eraseP (· matches .rewritten ..) } := by
    subst added route
    rw [visit_of_not_plain c other]
    rfl
  rw [run]
  subst added
  exact .between_routes (by subst route; rfl) rfl requested

theorem navigateVia_world (c : Conduct) (v : Visit) (w : BrowserWorld) :
    ((navigateVia c v).runOn w).2 = ((visit c v).runOn w).2 := by
  unfold navigateVia
  rw [Act.runOn_bind]
  rcases (visit c v).runOn w with ⟨_ | _ | _, _⟩ <;> rfl

/-- When no interceptor answers, the requests that passed are those that were sent. -/
theorem sent_of_silent {requests : List PageRequest} {w' : BrowserWorld}
    (passed : Passed (requests.map (Conduct.silent.handle w.consulted)) w w') :
    w'.sent = requests.reverse ++ w.sent := by
  have unanswered : Handling.sent? ∘ Conduct.silent.handle w.consulted = some := by
    funext q
    rw [Function.comp_apply, Handling.sent?, Conduct.silent_handle]
    rfl
  rw [passed.sent, ← List.map_reverse, List.filterMap_map, unanswered, List.filterMap_some]

/-- Whatever a page requests during a visit that is no plain fetch, its requests to the address of the visit
take the method and the data of the visit, and its other requests go as they are. So the visit rewrites no
request but its own, whatever interceptors do, exactly when no other request to its address differs. -/
theorem visit_rewrites_own_request_iff (routed : w.Routed)
    (other : ¬ (Text.upper v.method = "GET" ∧ v.postData = .null)) :
    (∀ c, Requested c v ((w.page.loadOf v.url).requests w.page.headers v.url) w
      ((navigateVia c v).runOn w).2) ∧
    ((∀ c : Conduct, Passed (((w.page.loadOf v.url).intended w.page.headers v).map (c.handle w.consulted)) w
        ((navigateVia c v).runOn w).2) ↔
      ∀ q ∈ (w.page.loadOf v.url).before ++ (w.page.loadOf v.url).after w.page.headers, q.url = v.url →
        q.method = Text.upper v.method ∧ (v.postData = .null ∨ q.postData = v.postData)) := by
  have requested : ∀ c, Requested c v ((w.page.loadOf v.url).requests w.page.headers v.url) w
      ((navigateVia c v).runOn w).2 := fun c => by
    rw [navigateVia_world]
    exact visit_requested routed other
  refine ⟨requested, ?_⟩
  rw [← BrowserLoad.rewritten_requests_iff]
  constructor
  · intro intended
    have same := (sent_of_silent (requested .silent)).symm.trans (sent_of_silent (intended .silent))
    exact List.reverse_injective (List.append_cancel_right same)
  · intro same c
    rw [← same]
    exact requested c

end

/-- A shop whose page asks for itself while it is shown, and counts its visitors elsewhere. -/
def talkingShop : BrowserPage where
  url := blankUrl
  loads := [("http://shop/", .talks 200 none [⟨"PUT", "http://count/", .text "1", []⟩]
    [⟨"GET", "http://shop/", .null, []⟩])]

theorem visit_rewrites_own_request_iff_at_shop :
    (∀ c, Requested c sendForm [⟨"PUT", "http://count/", .text "1", []⟩, ⟨"GET", "http://shop/", .null, []⟩,
        ⟨"GET", "http://shop/", .null, []⟩]
      { page := talkingShop, navigationTimeoutMs := 30000, now := 0 }
      ((navigateVia c sendForm).runOn { page := talkingShop, navigationTimeoutMs := 30000, now := 0 }).2) ∧
    ¬ ∀ c : Conduct, Passed (([⟨"PUT", "http://count/", .text "1", []⟩,
        ⟨"POST", "http://shop/", .text "tea", []⟩, ⟨"GET", "http://shop/", .null, []⟩] :
          List PageRequest).map (c.handle []))
      { page := talkingShop, navigationTimeoutMs := 30000, now := 0 }
      ((navigateVia c sendForm).runOn { page := talkingShop, navigationTimeoutMs := 30000, now := 0 }).2 := by
  have upper : Text.upper sendForm.method = "POST" := by decide +kernel
  obtain ⟨requested, iff⟩ := visit_rewrites_own_request_iff (v := sendForm)
    (w := { page := talkingShop, navigationTimeoutMs := 30000, now := 0 }) ⟨rfl⟩
    (fun plain => absurd (upper.symm.trans plain.1) (by decide))
  refine ⟨requested, fun passed => ?_⟩
  have own : sendForm.request [] = ⟨"POST", "http://shop/", .text "tea", []⟩ :=
    congrArg (PageRequest.mk · "http://shop/" (.text "tea") []) upper
  have intended : (talkingShop.loadOf "http://shop/").intended [] sendForm =
      [⟨"PUT", "http://count/", .text "1", []⟩, ⟨"POST", "http://shop/", .text "tea", []⟩,
        ⟨"GET", "http://shop/", .null, []⟩] := by
    rw [← own]
    rfl
  have same := iff.mp (intended ▸ passed) ⟨"GET", "http://shop/", .null, []⟩
    (.tail _ (.head _)) rfl
  exact absurd (same.1.trans upper) (by decide)

/-- A page that needs what is at its own address. -/
def selfNeeding : BrowserPage where
  url := blankUrl
  loads := [("http://shop/", .fetches 200 none ["http://shop/"])]

theorem form_sent_twice :
    ((navigate sendForm).runOn { page := selfNeeding, navigationTimeoutMs := 30000, now := 0 }).2.sent.map
      (·.method) = ["POST", "POST"] ∧
    ((selfNeeding.loadOf sendForm.url).intended [] sendForm).map (·.method) = ["POST", "GET"] := by
  decide +kernel

end BrowserWorld
end PageHarvest
