import PageHarvest.Proofs.Static.Interception

/-!
Static pages turn by turn. Interceptors and clients may do otherwise in every turn, and may fail in any of
them. The address and the document of a page are those of its latest visit that did not fail.
-/
namespace PageHarvest

/-- What is done to the driver of a page, and what interceptors and the client do about requests
meanwhile. -/
structure Turn where
  doing : Doing
  reaction : Reaction
  client : PageRequest → SitePage

/-- What a visit brings. -/
structure Fetched where
  status : Option Int
  url : String
  markup : String

/-- What visits of no address bring. -/
def Fetched.blank : Fetched :=
  ⟨none, blankUrl, ""⟩

/-- The failure of an answer, or else the answer. -/
def SitePage.outcome (a : SitePage) : Except Failure SitePage :=
  match a.failure with
  | some f => .error f
  | none => .ok a

def SitePage.fetched (a : SitePage) (q : PageRequest) : Fetched :=
  ⟨some a.status, a.url.getD q.url, a.markup⟩

/-- What becomes of a visit: the requests that interceptors are asked about, the requests that are sent,
and what they bring. -/
structure Account where
  asked : List PageRequest := []
  sent : List PageRequest := []
  outcome : Except Failure Fetched

/-- What becomes of a request when this many interceptors have been asked about it. -/
def Account.settled (client : PageRequest → SitePage) (q : PageRequest) (asked : Nat) :
    Except Failure (Option MadeResponse) → Account
  | .error f => ⟨List.replicate asked q, [], .error f⟩
  | .ok (some made) => ⟨List.replicate asked q, [], .ok ⟨some made.status, q.url, made.body⟩⟩
  | .ok none => ⟨List.replicate asked q, [q], (client q).outcome.map fun a => a.fetched q⟩

namespace Turn

/-- All that was done, oldest first, in turns that are listed newest first. -/
def doings (turns : List Turn) : List Doing :=
  (turns.map (·.doing)).reverse

theorem doings_cons (t : Turn) (turns : List Turn) : doings (t :: turns) = doings turns ++ [t.doing] :=
  List.reverse_cons

/-- What each interceptor that is asked in a turn does, after those before it. -/
def responders (past : List Turn) (t : Turn) : List Responder :=
  (Doing.consulted (doings past)).mapIdx t.reaction

/-- The account of a turn, if it is a visit. -/
def account? (past : List Turn) (t : Turn) : Option Account :=
  match t.doing with
  | .visit v =>
    if v.url = blankUrl then some { outcome := .ok .blank }
    else
      let (asked, out) := (v.request []).consult (t.responders past)
      some (.settled t.client (v.request []) asked out)
  | _ => none

/-- What a turn answers. -/
def answer (past : List Turn) (t : Turn) : Except Failure (Option PageResponse) :=
  match t.account? past with
  | some a => a.outcome.map fun x => some ⟨x.status, x.url⟩
  | none => .ok none

theorem answer_of_other {past : List Turn} {t : Turn} (other : t.account? past = none) :
    t.answer past = .ok none := by
  unfold answer
  rw [other]

/-- The accounts of turns, newest first. -/
def accounts : List Turn → List Account
  | [] => []
  | t :: past => (t.account? past).toList ++ accounts past

/-- What the latest visit has brought that did not fail. -/
def latest (turns : List Turn) : Fetched :=
  ((accounts turns).findSome? (·.outcome.toOption)).getD .blank

end Turn

namespace StaticWorld
open Turn (accounts latest)

/-- One turn of a page. -/
def act (r : PageRef) (t : Turn) : Act StaticWorld (Option PageResponse) :=
  match t.doing with
  | .switch enabled => (fun _ => none) <$> setInterception r enabled
  | .register i => (fun _ => none) <$> addInterceptor r i
  | .visit v => some <$> navigateVia (.reacting t.reaction fun _ => t.client) r v

/-- What turns make of a world, the newest of them listed first. -/
def afterTurns (r : PageRef) (w : StaticWorld) : List Turn → StaticWorld
  | [] => w
  | t :: past => ((act r t).runOn (afterTurns r w past)).2

/-- A page in a world that some turns have made of another one. -/
structure Told (r : PageRef) (w₀ : StaticWorld) (turns : List Turn) (w : StaticWorld) : Prop where
  page : ∃ p, w.pageAt r = some p ∧ p.interceptors = Doing.registered (Turn.doings turns) ∧
    p.intercepting = Doing.intercepting (Turn.doings turns)
  shows : ∃ first, Shows w r (Html.parse (latest turns).markup 0).1 (latest turns).url first
  handled : w.handled = (accounts turns).flatMap (·.asked) ++ w₀.handled
  requests : w.requests = (accounts turns).flatMap (·.sent) ++ w₀.requests
  quiet : w.arrivals = []

/-- What a failing visit may leave behind. -/
structure Untouched (w w' : StaticWorld) : Prop where
  pages : w'.pages = w.pages
  trees : w'.trees = w.trees

section
variable {r : PageRef} {w w₀ : StaticWorld} {turns : List Turn}

theorem receive_runOn (t : Backend) (q : PageRequest) (quiet : w.arrivals = []) :
    ∃ now, (receive t q).runOn w = ((t.client w.site q).outcome, { w with now }) := by
  unfold SitePage.outcome
  rw [receive, Act.runOn_bind, Act.runOn_get]
  dsimp only
  cases (t.client w.site q).latencyMs with
  | none =>
    refine ⟨w.now, ?_⟩
    cases (t.client w.site q).failure with
    | some f => rfl
    | none => rfl
  | some ms =>
    refine ⟨Precision.double.near (w.now + precision.near (ms / 1000)), ?_⟩
    dsimp only
    rw [Act.runOn_bind, Act.runOn_modify, pass_of_quiet quiet]
    cases (t.client w.site q).failure with
    | some f => rfl
    | none => rfl

/-- Fetching comes to what the account of the request says, and passes time besides. -/
theorem fetch_settled (c : Reaction) (client : PageRequest → SitePage) (p : StaticPage) (q : PageRequest)
    (quiet : w.arrivals = []) {a : Account}
    (account : a = .settled client q (q.consult (p.consulted.mapIdx c)).1
      (q.consult (p.consulted.mapIdx c)).2) :
    ∃ now out, (fetch (.reacting c fun _ => client) p q).runOn w =
        (out, { w with handled := a.asked ++ w.handled, requests := a.sent ++ w.requests, now }) ∧
      a.outcome = out.map fun x => ⟨some x.1, x.2.1, x.2.2⟩ := by
  rw [fetch_asked, Act.runOn_bind, Act.runOn_ofExcept]
  subst account
  rcases (q.consult (p.consulted.mapIdx c)).2 with f | _ | made
  · exact ⟨w.now, .error f, rfl, rfl⟩
  · dsimp only
    obtain ⟨now, received⟩ := receive_runOn (.reacting c fun _ => client) q (w := { w with
      handled := List.replicate (q.consult (p.consulted.mapIdx c)).1 q ++ w.handled
      requests := q :: w.requests }) quiet
    rw [obtained, Act.runOn_bind, send_eq_receive, Act.runOn_bind, Act.runOn_modify]
    dsimp only
    rw [received]
    cases brought : (client q).outcome with
    | error f =>
      refine ⟨now, .error f, ?_, ?_⟩
      · rw [Backend.reacting, brought]
        rfl
      · rw [Account.settled, brought]
        rfl
    | ok a =>
      refine ⟨now, .ok (a.status, a.url.getD q.url, a.markup), ?_, ?_⟩
      · rw [Backend.reacting, brought]
        rfl
      · rw [Account.settled, brought]
        rfl
  · exact ⟨w.now, .ok _, rfl, rfl⟩

/-- What a world may differ in after a visit of a page: the page shows what the visit has brought, or
else nothing has been put up. -/
structure Visited (r : PageRef) (p : StaticPage) (a : Account) (w w' : StaticWorld) : Prop where
  handled : w'.handled = a.asked ++ w.handled
  requests : w'.requests = a.sent ++ w.requests
  quiet : w'.arrivals = []
  brought : ∀ x, a.outcome = .ok x →
    w'.pageAt r = some { p with url := x.url, document := w.nextId } ∧
    Shows w' r (Html.parse x.markup 0).1 x.url w.nextId
  failed : ∀ f, a.outcome = .error f → Untouched w w'

theorem fetch_putUp_runOn (c : Reaction) (client : PageRequest → SitePage) {p : StaticPage}
    (here : w.pageAt r = some p) (q : PageRequest) (quiet : w.arrivals = []) {a : Account}
    (account : a = .settled client q (q.consult (p.consulted.mapIdx c)).1
      (q.consult (p.consulted.mapIdx c)).2) :
    ∃ w', (fetch (.reacting c fun _ => client) p q >>= putUp r q).runOn w =
      (a.outcome.map fun x => ⟨x.status, x.url⟩, w') ∧ Visited r p a w w' := by
  obtain ⟨now, out, run, outcome⟩ := fetch_settled c client p q quiet account
  rw [Act.runOn_bind, run, outcome]
  cases out with
  | error f =>
    refine ⟨_, rfl, rfl, rfl, quiet, ?_, fun f' same => ⟨rfl, rfl⟩⟩
    intro x same
    cases outcome.symm.trans same
  | ok fetched =>
    obtain ⟨status, url, markup⟩ := fetched
    have here' : pageAt { w with handled := a.asked ++ w.handled, requests := a.sent ++ w.requests, now } r =
        some p := by
      cases r <;> exact here
    obtain ⟨trees, nextId, pages, log, put, there, shows⟩ := putUp_runOn here' q status url markup
    dsimp only
    rw [put]
    refine ⟨_, rfl, rfl, rfl, quiet, ?_, ?_⟩
    · intro x same
      cases outcome.symm.trans same
      exact ⟨there, shows⟩
    · intro f same
      cases outcome.symm.trans same

variable (turns) in
theorem visit_runOn (t : Turn) {p : StaticPage} (here : w.pageAt r = some p) (quiet : w.arrivals = [])
    {v : Visit} (doing : t.doing = .visit v) (consulted : p.consulted = Doing.consulted (Turn.doings turns)) :
    ∃ a w', t.account? turns = some a ∧
      (navigateVia (.reacting t.reaction fun _ => t.client) r v).runOn w =
        (a.outcome.map fun x => ⟨x.status, x.url⟩, w') ∧ Visited r p a w w' := by
  unfold Turn.account? Turn.responders
  rw [doing]
  dsimp only
  by_cases blank : v.url = blankUrl
  · obtain ⟨trees, nextId, pages, run, there, shows⟩ := display_runOn here blankUrl ""
    refine ⟨_, { w with trees, nextId, pages }, if_pos blank, ?_, rfl, rfl, quiet, ?_, nofun⟩
    · rw [navigateVia, Act.runOn_bind, page_runOn here]
      dsimp only
      rw [if_pos (beq_iff_eq.mpr blank), Act.runOn_bind, run]
      rfl
    · rintro x ⟨⟩
      exact ⟨there, shows⟩
  · rw [if_neg blank, navigateVia_away _ here blank, ← consulted]
    obtain ⟨w', run, visited⟩ := fetch_putUp_runOn t.reaction t.client here (v.request []) quiet rfl
    exact ⟨_, w', rfl, run, visited⟩

/-- A turn that visits nothing leaves what the page shows. -/
theorem Told.changed (told : Told r w₀ turns w) {t : Turn} (other : t.account? turns = none)
    (change : StaticPage → StaticPage)
    (showing : ∀ p, (change p).url = p.url ∧ (change p).document = p.document)
    (setting : ∀ p, p.interceptors = Doing.registered (Turn.doings turns) →
      p.intercepting = Doing.intercepting (Turn.doings turns) →
      (change p).interceptors = Doing.registered (Turn.doings (t :: turns)) ∧
      (change p).intercepting = Doing.intercepting (Turn.doings (t :: turns))) :
    ∃ v, (changePage r change).runOn w = (.ok ⟨⟩, v) ∧ Told r w₀ (t :: turns) v := by
  obtain ⟨p, here, interceptors, intercepting⟩ := told.page
  obtain ⟨first, ⟨p', here', url, document⟩, tree⟩ := told.shows
  obtain ⟨pages, run, changed⟩ := changePage_runOn here change
  have same : p' = p := Option.some.inj (here'.symm.trans here)
  subst same
  have accounts : Turn.accounts (t :: turns) = Turn.accounts turns := by
    rw [Turn.accounts, other]
    rfl
  have latest : Turn.latest (t :: turns) = Turn.latest turns := by
    unfold Turn.latest
    rw [accounts]
  refine ⟨_, run, ⟨?_, ?_, ?_, ?_, told.quiet⟩⟩
  · exact ⟨_, changed, setting p' interceptors intercepting⟩
  · rw [latest]
    exact ⟨first, ⟨_, changed, (showing p').1.trans url, (showing p').2.trans document⟩, tree⟩
  · rw [accounts]
    exact told.handled
  · rw [accounts]
    exact told.requests

/-- A visit leaves the page with what it has brought, or else as it was. -/
theorem Told.visited (told : Told r w₀ turns w) {t : Turn} {v : Visit} (doing : t.doing = .visit v)
    {a : Account} (account : t.account? turns = some a) {p : StaticPage} (here : w.pageAt r = some p)
    {w' : StaticWorld} (visited : Visited r p a w w') : Told r w₀ (t :: turns) w' := by
  have accounts : Turn.accounts (t :: turns) = a :: Turn.accounts turns := by
    rw [Turn.accounts, account]
    rfl
  have registered : Doing.registered (Turn.doings (t :: turns)) = Doing.registered (Turn.doings turns) := by
    rw [Turn.doings_cons, Doing.registered_append, doing]
    exact List.append_nil _
  have on : Doing.intercepting (Turn.doings (t :: turns)) = Doing.intercepting (Turn.doings turns) := by
    rw [Turn.doings_cons, Doing.intercepting_append, doing]
    rfl
  obtain ⟨p', here', interceptors, intercepting⟩ := told.page
  have same : p' = p := Option.some.inj (here'.symm.trans here)
  subst same
  have handled : w'.handled = (Turn.accounts (t :: turns)).flatMap (·.asked) ++ w₀.handled := by
    rw [visited.handled, told.handled, accounts, List.flatMap_cons, List.append_assoc]
  have requests : w'.requests = (Turn.accounts (t :: turns)).flatMap (·.sent) ++ w₀.requests := by
    rw [visited.requests, told.requests, accounts, List.flatMap_cons, List.append_assoc]
  have latest : Turn.latest (t :: turns) = (a.outcome.toOption).getD (Turn.latest turns) := by
    unfold Turn.latest
    rw [accounts, List.findSome?_cons]
    cases a.outcome <;> rfl
  cases outcome : a.outcome with
  | ok x =>
    obtain ⟨there, shows⟩ := visited.brought x outcome
    rw [outcome] at latest
    refine ⟨⟨_, there, ?_, ?_⟩, ⟨w.nextId, ?_⟩, handled, requests, visited.quiet⟩
    · rw [registered]
      exact interceptors
    · rw [on]
      exact intercepting
    · rw [latest]
      exact shows
  | error f =>
    obtain ⟨pages, trees⟩ := visited.failed f outcome
    have still : w'.pageAt r = w.pageAt r := pageAt_congr pages r
    obtain ⟨first, shown, tree⟩ := told.shows
    rw [outcome] at latest
    refine ⟨⟨p', still.trans here, ?_, ?_⟩, ⟨first, ?_⟩, handled, requests, visited.quiet⟩
    · rw [registered]
      exact interceptors
    · rw [on]
      exact intercepting
    · rw [latest]
      exact ⟨still ▸ shown, trees ▸ tree⟩

/-- One more turn. -/
theorem Told.turned (told : Told r w₀ turns w) (t : Turn) :
    ((act r t).runOn w).1 = t.answer turns ∧ Told r w₀ (t :: turns) ((act r t).runOn w).2 ∧
      ∀ f, t.answer turns = .error f → Untouched w ((act r t).runOn w).2 := by
  have registered : Doing.registered (Turn.doings (t :: turns)) =
      Doing.registered (Turn.doings turns) ++ t.doing.registered?.toList := by
    rw [Turn.doings_cons, Doing.registered_append]
  have on : Doing.intercepting (Turn.doings (t :: turns)) =
      Doing.switched (Doing.intercepting (Turn.doings turns)) t.doing := by
    rw [Turn.doings_cons, Doing.intercepting_append]
  unfold act
  cases doing : t.doing with
  | switch enabled =>
    have other : t.account? turns = none := by
      unfold Turn.account?
      rw [doing]
    rw [doing] at registered on
    obtain ⟨v, run, told'⟩ := told.changed other (fun p => { p with intercepting := enabled })
      (fun p => ⟨rfl, rfl⟩) fun p interceptors intercepting => by
        rw [registered, on]
        exact ⟨interceptors.trans (List.append_nil _).symm, rfl⟩
    dsimp only
    rw [Act.runOn_map, setInterception, run, Turn.answer_of_other other]
    exact ⟨rfl, told', nofun⟩
  | register i =>
    have other : t.account? turns = none := by
      unfold Turn.account?
      rw [doing]
    rw [doing] at registered on
    obtain ⟨v, run, told'⟩ := told.changed other
      (fun p => { p with interceptors := p.interceptors ++ [i] })
      (fun p => ⟨rfl, rfl⟩) fun p interceptors intercepting => by
        rw [registered, on, interceptors]
        exact ⟨rfl, intercepting⟩
    dsimp only
    rw [Act.runOn_map, addInterceptor, run, Turn.answer_of_other other]
    exact ⟨rfl, told', nofun⟩
  | visit v =>
    obtain ⟨p, here, interceptors, intercepting⟩ := told.page
    have consulted : p.consulted = Doing.consulted (Turn.doings turns) := by
      unfold StaticPage.consulted Doing.consulted
      rw [interceptors, intercepting]
    obtain ⟨a, w', account, run, visited⟩ := visit_runOn turns t here told.quiet doing consulted
    have answer : t.answer turns = a.outcome.map fun x => some ⟨x.status, x.url⟩ := by
      unfold Turn.answer
      rw [account]
    dsimp only
    rw [Act.runOn_map, run, answer]
    refine ⟨?_, told.visited doing account here visited, ?_⟩
    · cases a.outcome <;> rfl
    · intro f failed
      cases outcome : a.outcome with
      | error f' => exact visited.failed f' outcome
      | ok x =>
        rw [outcome] at failed
        cases failed

theorem told_openPage (opened : w₀.openPage [] false = (r, w)) (quiet : w₀.arrivals = []) :
    Told r w₀ [] w := by
  cases opened
  have here : (w₀.openPage [] false).2.pageAt (w₀.openPage [] false).1 =
      some { document := w₀.nextId, interceptors := [], intercepting := false } :=
    Array.getElem?_push_size
  refine ⟨⟨_, here, rfl, rfl⟩, ⟨w₀.nextId, ⟨_, here, rfl, rfl⟩, w₀.trees, ?_⟩, rfl, rfl, quiet⟩
  exact congrArg (· :: w₀.trees) (parsed_tree "" w₀.nextId)

theorem told_afterTurns (opened : w₀.openPage [] false = (r, w)) (quiet : w₀.arrivals = [])
    (turns : List Turn) : Told r w₀ turns (afterTurns r w turns) := by
  induction turns with
  | nil => exact told_openPage opened quiet
  | cons t past ih => exact (ih.turned t).2.1

/-- Whatever was done to the driver of a new page, with interceptors and clients that may fail at any
time: the page shows what its latest visit has brought that did not fail, under the address that came with
it. Interceptors are asked about the requests of visits in the order of their registration while requests
are intercepted, and what none of them has settled is sent, once. A visit that fails puts up nothing. -/
theorem visits_atomic (opened : w₀.openPage [] false = (r, w)) (quiet : w₀.arrivals = [])
    (turns : List Turn) :
    (∃ first, Shows (afterTurns r w turns) r (Html.parse (latest turns).markup 0).1 (latest turns).url
      first) ∧
    (afterTurns r w turns).handled = (accounts turns).flatMap (·.asked) ++ w₀.handled ∧
    (afterTurns r w turns).requests = (accounts turns).flatMap (·.sent) ++ w₀.requests ∧
    ∀ t : Turn, ((act r t).runOn (afterTurns r w turns)).1 = t.answer turns ∧
      (∀ f, t.answer turns = .error f →
        Untouched (afterTurns r w turns) ((act r t).runOn (afterTurns r w turns)).2) ∧
      ∀ v, t.doing = .visit v → v.url ≠ blankUrl → ∃ asked out,
        (v.request []).Settles (t.responders turns) asked out ∧
        t.account? turns = some (.settled t.client (v.request []) asked out) := by
  have told := told_afterTurns opened quiet turns
  refine ⟨told.shows, told.handled, told.requests, fun t => ?_⟩
  obtain ⟨answer, -, untouched⟩ := told.turned t
  refine ⟨answer, untouched, fun v doing away => ⟨_, _, PageRequest.settles_consult _ _, ?_⟩⟩
  unfold Turn.account?
  rw [doing]
  exact if_neg away

end

/-- A posted form brings a list, and then an interceptor fails to let the till through. -/
def closedTill : List Turn :=
  let shop : PageRequest → SitePage := fun _ => { markup := "<p>tea</p>", url := some "http://shop/list" }
  let closed : Reaction := fun _ _ _ => .error (Cause.badValue "closed")
  [⟨.visit ⟨"http://shop/till", "GET", .null⟩, closed, shop⟩, ⟨.switch true, closed, shop⟩,
    ⟨.register [], closed, shop⟩, ⟨.visit ⟨"http://shop/", "post", .text "q=tea"⟩, closed, shop⟩]

theorem visits_atomic_at_closedTill : ∃ w first,
    Shows w (.page 0) (Html.parse "<p>tea</p>" 0).1 "http://shop/list" first ∧
    w.handled.map (·.url) = ["http://shop/till"] ∧
    w.requests.map (fun q => (q.method, q.url)) = [("POST", "http://shop/")] := by
  obtain ⟨⟨first, shows⟩, handled, requests, -⟩ := visits_atomic
    (rfl : openPage { site := [], start := 0, now := 0 } [] false = (_, _)) rfl closedTill
  refine ⟨_, first, shows, ?_, ?_⟩
  · rw [handled]
    decide +kernel
  · rw [requests]
    decide +kernel

end StaticWorld
end PageHarvest
