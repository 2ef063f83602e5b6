import PageHarvest.Proofs.Fetch.Interception
import PageHarvest.Proofs.Static.Motion
import PageHarvest.Proofs.Static.Sameness

/-!
How static pages handle the requests of visits. What an interceptor answers becomes the page, and nothing
is sent; otherwise one request is sent, whatever becomes of it.
-/
namespace PageHarvest

/-- The interceptors that are asked about requests of a page. -/
def StaticPage.consulted (p : StaticPage) : List Interceptor :=
  if p.intercepting then p.interceptors else []

namespace StaticWorld
open Act (Moves)

/-- A visit between two worlds, whose request was handled so. -/
structure VisitHandled (h : Handling) (r : PageRef) (w w' : StaticWorld) (out : Except Failure PageResponse) :
    Prop where
  asked : w'.handled = List.replicate h.asked h.request ++ w.handled
  answered : ∀ made, h.answer = some made → w'.requests = w.requests ∧
    out = .ok ⟨some made.status, h.request.url⟩ ∧
    Shows w' r (Html.parse made.body 0).1 h.request.url w.nextId
  passed : h.answer = none → w'.requests = h.request :: w.requests

/-- No request is handled, and a page keeps its interceptors. -/
structure Undisturbed (r : PageRef) (w w' : StaticWorld) : Prop where
  requests : w'.requests = w.requests
  handled : w'.handled = w.handled
  page : ∀ p, w.pageAt r = some p → ∃ p', w'.pageAt r = some p' ∧
    p'.interceptors = p.interceptors ∧ p'.intercepting = p.intercepting

instance (r : PageRef) : IsPreorder StaticWorld (Undisturbed r) where
  refl _ := ⟨rfl, rfl, fun p here => ⟨p, here, rfl, rfl⟩⟩
  trans _ _ _ first second := by
    refine ⟨second.requests.trans first.requests, second.handled.trans first.handled, fun p here => ?_⟩
    obtain ⟨p', here', interceptors, intercepting⟩ := first.page p here
    obtain ⟨p'', here'', interceptors', intercepting'⟩ := second.page p' here'
    exact ⟨p'', here'', interceptors'.trans interceptors, intercepting'.trans intercepting⟩

section
variable {r : PageRef} {w w' : StaticWorld}

theorem undisturbed_of_same (requests : w'.requests = w.requests) (handled : w'.handled = w.handled)
    (pages : w'.pages = w.pages) : Undisturbed r w w' := by
  refine ⟨requests, handled, fun p here => ⟨p, ?_, rfl, rfl⟩⟩
  rw [pageAt_congr pages]
  exact here

theorem undisturbed_pass (seconds : Rat) (w : StaticWorld) : Undisturbed r w (pass seconds w) := by
  refine pass_relates (fun _ _ _ => undisturbed_of_same rfl rfl rfl) (fun done => ?_) seconds w
  obtain ⟨trees, nextId, rfl⟩ := edits_of_append done
  exact undisturbed_of_same rfl rfl rfl

/-- A request that is sent is noted, and whatever comes next handles no other. -/
theorem send_undisturbed {α : Type} (t : Backend) (q : PageRequest) {next : SitePage → Act StaticWorld α}
    (later : ∀ a, Moves (Undisturbed r) (next a)) (w : StaticWorld) :
    Undisturbed r { w with requests := q :: w.requests } ((send t q >>= next).runOn w).2 := by
  rw [send_eq_receive, bind_assoc, Act.runOn_bind, Act.runOn_modify]
  have receives : Moves (Undisturbed r) (receive t q) :=
    moves_receive (R := Undisturbed r) (fun w _ _ _ => undisturbed_pass _ w) q
  exact Moves.bind receives later _

theorem reportVisit_undisturbed (q : PageRequest) (status : Int) :
    Moves (Undisturbed r) (reportVisit q status) := by
  intro w
  obtain ⟨log, noted⟩ := reportVisit_runOn q status w
  rw [noted]
  exact undisturbed_of_same rfl rfl rfl

theorem display_undisturbed (url markup : String) : Moves (Undisturbed r) (display r url markup) := by
  intro w
  refine ⟨?_, ?_, fun p here => ?_⟩
  · cases r <;> rfl
  · cases r <;> rfl
  · obtain ⟨trees, nextId, pages, run, there, -⟩ := display_runOn here url markup
    rw [run]
    exact ⟨_, there, rfl, rfl⟩

/-- What was fetched becomes the page, which is reported. -/
def putUp (r : PageRef) (q : PageRequest) (fetched : Int × String × String) :
    Act StaticWorld PageResponse := do
  display r fetched.2.1 fetched.2.2
  reportVisit q fetched.1
  return ⟨some fetched.1, fetched.2.1⟩

theorem putUp_undisturbed (q : PageRequest) (fetched : Int × String × String) :
    Moves (Undisturbed r) (putUp r q fetched) :=
  .bind (display_undisturbed _ _) fun _ => .bind (reportVisit_undisturbed q _) fun _ => .pure _

theorem putUp_runOn {p : StaticPage} (here : w.pageAt r = some p) (q : PageRequest) (status : Int)
    (url markup : String) : ∃ trees nextId pages log, (putUp r q (status, url, markup)).runOn w =
        (.ok ⟨some status, url⟩, { w with trees, nextId, pages, log }) ∧
      pageAt { w with trees, nextId, pages, log } r = some { p with url, document := w.nextId } ∧
      Shows { w with trees, nextId, pages, log } r (Html.parse markup 0).1 url w.nextId := by
  obtain ⟨trees, nextId, pages, run, there, shows⟩ := display_runOn here url markup
  obtain ⟨log, noted⟩ := reportVisit_runOn q status { w with trees, nextId, pages }
  unfold putUp
  rw [Act.runOn_bind, run]
  dsimp only
  rw [Act.runOn_bind, noted]
  exact ⟨trees, nextId, pages, log, rfl, there, shows.page, shows.tree⟩

/-- A page with what an interceptor answered, or else with what the site does. -/
def complete (t : Backend) (r : PageRef) (h : Handling) : Act StaticWorld PageResponse :=
  match h.answer with
  | some made => putUp r h.request (made.status, h.request.url, made.body)
  | none => do
    let a ← send t h.request
    putUp r h.request (a.status, a.url.getD h.request.url, a.markup)

/-- What a request comes to that an interceptor has answered, or none has. -/
def obtained (t : Backend) (q : PageRequest) : Option MadeResponse → Act StaticWorld (Int × String × String)
  | some m => return (m.status, q.url, m.body)
  | none => do
    let a ← send t q
    return (a.status, a.url.getD q.url, a.markup)

/-- What interceptors are asked is noted before anything is sent. -/
theorem fetch_asked (c : Reaction) (client : Site → PageRequest → SitePage) (p : StaticPage)
    (q : PageRequest) (w : StaticWorld) : (fetch (.reacting c client) p q).runOn w =
      (Act.ofExcept (q.consult (p.consulted.mapIdx c)).2 >>= obtained (.reacting c client) q).runOn
        { w with handled := List.replicate (q.consult (p.consulted.mapIdx c)).1 q ++ w.handled } := by
  unfold fetch StaticPage.consulted
  cases p.intercepting with
  | false => rfl
  | true => rfl

theorem fetch_runOn (c : Conduct) (client : Site → PageRequest → SitePage) (p : StaticPage)
    (q : PageRequest) (w : StaticWorld) :
    (fetch (.conducted c client) p q >>= putUp r q).runOn w =
      (complete (.conducted c client) r (c.handle p.consulted q)).runOn
        { w with handled := List.replicate (c.handle p.consulted q).asked q ++ w.handled } := by
  have asked : (fetch (.conducted c client) p q).runOn w =
      (obtained (.conducted c client) q (c.handle p.consulted q).answer).runOn
        { w with handled := List.replicate (c.handle p.consulted q).asked q ++ w.handled } := by
    refine (fetch_asked c.reaction client p q w).trans ?_
    rw [q.consult_reaction, Act.runOn_bind, Act.runOn_ofExcept]
    rfl
  rw [Act.runOn_bind, asked, ← Act.runOn_bind]
  unfold complete obtained
  cases (c.handle p.consulted q).answer with
  | some made => exact rfl
  | none =>
    dsimp only
    rw [bind_assoc]
    exact rfl

theorem complete_handled (t : Backend) {p : StaticPage} (here : w.pageAt r = some p) (h : Handling)
    (noted : w' = { w with handled := List.replicate h.asked h.request ++ w.handled }) :
    VisitHandled h r w ((complete t r h).runOn w').2 ((complete t r h).runOn w').1 ∧
    ∃ p', ((complete t r h).runOn w').2.pageAt r = some p' ∧
      p'.interceptors = p.interceptors ∧ p'.intercepting = p.intercepting := by
  have here' : w'.pageAt r = some p := by
    rw [noted]
    cases r <;> exact here
  have asked : w'.handled = List.replicate h.asked h.request ++ w.handled := by rw [noted]
  have requests : w'.requests = w.requests := by rw [noted]
  have next : w'.nextId = w.nextId := by rw [noted]
  unfold complete
  cases answer : h.answer with
  | some made =>
    obtain ⟨trees, nextId, pages, log, run, -, shows⟩ :=
      putUp_runOn here' h.request made.status h.request.url made.body
    have still := putUp_undisturbed (r := r) h.request (made.status, h.request.url, made.body) w'
    dsimp only
    rw [run] at still ⊢
    refine ⟨⟨still.handled.trans asked, ?_, ?_⟩, still.page p here'⟩
    · intro _ same
      cases answer.symm.trans same
      exact ⟨still.requests.trans requests, rfl, next ▸ shows⟩
    · intro none
      cases answer.symm.trans none
  | none =>
    have since := send_undisturbed t h.request
      (fun a => putUp_undisturbed (r := r) h.request (a.status, a.url.getD h.request.url, a.markup)) w'
    refine ⟨⟨since.handled.trans asked, ?_, ?_⟩, since.page p ?_⟩
    · intro made same
      cases answer.symm.trans same
    · intro _
      exact since.requests.trans (congrArg (h.request :: ·) requests)
    · cases r <;> exact here'

theorem changePage_runOn {p : StaticPage} (here : w.pageAt r = some p) (change : StaticPage → StaticPage) :
    ∃ pages, (changePage r change).runOn w = (.ok ⟨⟩, { w with pages }) ∧
      pageAt { w with pages } r = some (change p) := by
  cases r with
  | nothing => cases here
  | page n =>
    have entry : w.pages[n]? = some p := here
    refine ⟨_, rfl, ?_⟩
    show (w.pages.modify n change)[n]? = some (change p)
    rw [Array.getElem?_modify, if_pos rfl, entry]
    rfl

theorem navigateVia_away (t : Backend) {p : StaticPage} (here : w.pageAt r = some p) {visit : Visit}
    (away : visit.url ≠ blankUrl) : (navigateVia t r visit).runOn w =
      (fetch t p (visit.request []) >>= putUp r (visit.request [])).runOn w := by
  unfold navigateVia
  rw [Act.runOn_bind, page_runOn here]
  dsimp only
  rw [if_neg (by simpa using away)]
  rfl

/-- One visit of a page that is there. -/
theorem navigateVia_handled {p : StaticPage} (here : w.pageAt r = some p) {visit : Visit}
    (away : visit.url ≠ blankUrl) (c : Conduct) (client : Site → PageRequest → SitePage) :
    VisitHandled (c.handle p.consulted ⟨Text.upper visit.method, visit.url, visit.postData, []⟩) r w
      ((navigateVia (.conducted c client) r visit).runOn w).2
      ((navigateVia (.conducted c client) r visit).runOn w).1 ∧
    ∃ p', ((navigateVia (.conducted c client) r visit).runOn w).2.pageAt r = some p' ∧
      p'.interceptors = p.interceptors ∧ p'.intercepting = p.intercepting := by
  rw [navigateVia_away _ here away, fetch_runOn]
  exact complete_handled _ here _ rfl

end
end StaticWorld
end PageHarvest
