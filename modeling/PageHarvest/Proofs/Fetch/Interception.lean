import Mathlib.Data.List.Forall2
import PageHarvest.Fetch.Interception
import PageHarvest.Query.Step
import PageHarvest.Text.Case

/-!
Requests on their way past interceptors. They are asked in the order of their registration, up to the first
that answers, and they may remember all that they have been asked before.
-/
namespace PageHarvest

/-- The request of a visit, as interceptors see it on a page with these headers. -/
def Visit.request (v : Visit) (headers : Table String String) : PageRequest :=
  ⟨Text.upper v.method, v.url, v.postData, headers⟩

namespace PageRequest

def bare (q : PageRequest) : PageRequest :=
  { q with headers := [] }

/-- Somebody who answers is the last to be asked. -/
inductive Consults (q : PageRequest) : List Answerer → Nat → Option MadeResponse → Prop where
  | passed {answerers} (silent : ∀ a ∈ answerers, a q = none) : Consults q answerers answerers.length none
  | answered {before a after made} (silent : ∀ b ∈ before, b q = none) (answers : a q = some made) :
      Consults q (before ++ a :: after) (before.length + 1) (some made)

theorem consults_ask (q : PageRequest) (answerers : List Answerer) :
    Consults q answerers (q.ask answerers).1 (q.ask answerers).2 := by
  induction answerers with
  | nil => exact .passed nofun
  | cons a rest ih =>
    rw [ask]
    cases answers : a q with
    | some made => exact @Consults.answered q [] a rest made nofun answers
    | none =>
      dsimp only
      generalize (q.ask rest).1 = n at ih ⊢
      generalize (q.ask rest).2 = made at ih ⊢
      cases ih with
      | passed silent => exact .passed (List.forall_mem_cons.mpr ⟨answers, silent⟩)
      | @answered before b after made silent later =>
        exact @Consults.answered q (a :: before) b after made (List.forall_mem_cons.mpr ⟨answers, silent⟩)
          later

theorem Consults.ask_eq {q : PageRequest} {answerers : List Answerer} {n : Nat} {answer : Option MadeResponse}
    (consults : Consults q answerers n answer) : q.ask answerers = (n, answer) := by
  cases consults with
  | passed silent =>
    induction answerers with
    | nil => rfl
    | cons a rest ih =>
      obtain ⟨here, others⟩ := List.forall_mem_cons.mp silent
      rw [ask, here, ih others]
      rfl
  | @answered before a after made silent answers =>
    induction before with
    | nil => rw [List.nil_append, ask, answers]; rfl
    | cons b rest ih =>
      obtain ⟨here, others⟩ := List.forall_mem_cons.mp silent
      rw [List.cons_append, ask, here, ih others]
      rfl

/-- Answers are all that counts of those who are asked. -/
theorem ask_congr {q q' : PageRequest} {answerers answerers' : List Answerer}
    (same : answerers.map (· q) = answerers'.map (· q')) : q.ask answerers = q'.ask answerers' := by
  induction answerers generalizing answerers' with
  | nil =>
    cases answerers' with
    | nil => rfl
    | cons a rest => cases same
  | cons a rest ih =>
    cases answerers' with
    | nil => cases same
    | cons a' rest' =>
      obtain ⟨here, others⟩ := List.cons.inj same
      have here : a q = a' q' := here
      rw [ask, ask, here, ih others]

/-- Those who never fail are asked up to the first that answers. -/
theorem consult_reaction (q : PageRequest) (c : Conduct) (interceptors : List Interceptor) :
    q.consult (interceptors.mapIdx c.reaction) = ((c.ask q interceptors).1, .ok (c.ask q interceptors).2) := by
  have answered (answerers : List Answerer) :
      q.consult (answerers.map fun a q => .ok (a q)) = ((q.ask answerers).1, .ok (q.ask answerers).2) := by
    induction answerers with
    | nil => rfl
    | cons a rest ih =>
      rw [List.map_cons, consult, ask]
      cases a q with
      | some made => rfl
      | none =>
        dsimp only
        rw [ih]
  have reacting : interceptors.mapIdx c.reaction = (interceptors.mapIdx c).map fun a q => .ok (a q) := by
    apply List.ext_getElem
    · rw [List.length_map, List.length_mapIdx, List.length_mapIdx]
    · intro place inside _
      rw [List.getElem_map, List.getElem_mapIdx, List.getElem_mapIdx]
      rfl
  rw [reacting, answered]
  rfl

/-- Whoever answers or fails is the last to be asked. -/
inductive Settles (q : PageRequest) : List Responder → Nat → Except Failure (Option MadeResponse) → Prop where
  | passed {responders} (silent : ∀ a ∈ responders, a q = .ok none) :
      Settles q responders responders.length (.ok none)
  | settled {before a after out} (silent : ∀ b ∈ before, b q = .ok none) (settles : a q = out)
      (last : out ≠ .ok none) : Settles q (before ++ a :: after) (before.length + 1) out

theorem settles_consult (q : PageRequest) (responders : List Responder) :
    Settles q responders (q.consult responders).1 (q.consult responders).2 := by
  induction responders with
  | nil => exact .passed nofun
  | cons a rest ih =>
    rw [consult]
    rcases settles : a q with f | _ | made
    · exact @Settles.settled q [] a rest _ nofun settles nofun
    · dsimp only
      generalize (q.consult rest).1 = n at ih ⊢
      generalize (q.consult rest).2 = out at ih ⊢
      cases ih with
      | passed silent => exact .passed (List.forall_mem_cons.mpr ⟨settles, silent⟩)
      | @settled before b after _ silent later last =>
        exact @Settles.settled q (a :: before) b after _ (List.forall_mem_cons.mpr ⟨settles, silent⟩) later
          last
    · exact @Settles.settled q [] a rest _ nofun settles nofun

end PageRequest

/-- What interceptors were asked about at each visit, newest first. -/
abbrev Asked := List (List PageRequest)

/-- Interceptors as they conduct themselves after all that they have been asked. -/
abbrev Memory := Asked → Conduct

/-- Requests with these headers are answered as if they had none. -/
def Memory.Heedless (m : Memory) (headers : Table String String) : Prop :=
  ∀ past place i q, (∀ visit ∈ [q] :: past, ∀ q' ∈ visit, q'.headers = headers) →
    m past place i q = m (past.map (·.map .bare)) place i q.bare

/-- Requests that were noted last. -/
def notedSince (before now : List PageRequest) : List PageRequest :=
  now.take (now.length - before.length)

theorem notedSince_append (new before : List PageRequest) : notedSince before (new ++ before) = new := by
  unfold notedSince
  rw [List.length_append, Nat.add_sub_cancel, List.take_left]

/-- What becomes of a request before it is sent: how many interceptors are asked, and the answer of the
last. -/
structure Handling where
  request : PageRequest
  asked : Nat
  answer : Option MadeResponse

namespace Conduct

def handle (c : Conduct) (interceptors : List Interceptor) (q : PageRequest) : Handling :=
  ⟨q, (c.ask q interceptors).1, (c.ask q interceptors).2⟩

theorem ask_congr {c c' : Conduct} {q q' : PageRequest} (same : ∀ place i, c place i q = c' place i q')
    (interceptors : List Interceptor) : c.ask q interceptors = c'.ask q' interceptors := by
  apply PageRequest.ask_congr
  apply List.ext_getElem
  · rw [List.length_map, List.length_map, List.length_mapIdx, List.length_mapIdx]
  · intro place inside _
    rw [List.getElem_map, List.getElem_map, List.getElem_mapIdx, List.getElem_mapIdx]
    exact same place _

theorem consults_ask (c : Conduct) (interceptors : List Interceptor) (q : PageRequest) :
    q.Consults (interceptors.mapIdx c) (c.ask q interceptors).1 (c.ask q interceptors).2 :=
  q.consults_ask _

end Conduct

/-- One thing done to the driver of a page. -/
inductive Doing where
  | switch (enabled : Bool)
  | register (i : Interceptor)
  | visit (v : Visit)

namespace Doing

def registered? : Doing → Option Interceptor
  | .register i => some i
  | _ => none

def switched : Bool → Doing → Bool
  | _, .switch enabled => enabled
  | on, _ => on

/-- The interceptors that are there after some doings. -/
def registered (doings : List Doing) : List Interceptor :=
  doings.filterMap registered?

/-- Whether requests are intercepted after some doings. -/
def intercepting (doings : List Doing) : Bool :=
  doings.foldl switched false

/-- The interceptors that are asked after some doings. -/
def consulted (doings : List Doing) : List Interceptor :=
  if intercepting doings then registered doings else []

theorem registered_append (doings : List Doing) (d : Doing) :
    registered (doings ++ [d]) = registered doings ++ d.registered?.toList := by
  unfold registered
  rw [List.filterMap_append]
  cases h : d.registered? with
  | none => rw [List.filterMap_cons_none h]; rfl
  | some i => rw [List.filterMap_cons_some h]; rfl

theorem intercepting_append (doings : List Doing) (d : Doing) :
    intercepting (doings ++ [d]) = switched (intercepting doings) d :=
  List.foldl_append ..

end Doing
end PageHarvest
