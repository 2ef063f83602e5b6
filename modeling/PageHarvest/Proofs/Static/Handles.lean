import Mathlib.Logic.Relation
import PageHarvest.Proofs.Css.Engine
import PageHarvest.Proofs.Replay.Steps
import PageHarvest.Proofs.Static.Documents

/-!
Handles in a scope, and the document that the page shows. A page that a callback visits and hands back
keeps its scope, so handles can outlive their document then, and only then: `Reached` follows a replay
and says whether that has happened since the scope was last the whole document.
-/
namespace PageHarvest.StaticWorld
open Act (Moves)
open Html (Node)
open Replay
variable {C : Type}

/-- One thing that code can do to pages, short of taking elements out of documents. -/
inductive Change (t : Backend) : StaticWorld → StaticWorld → Prop where
  | visited (r visit w) : Change t w ((navigateVia t r visit).runOn w).2
  | opened (interceptors intercepting w) : Change t w (openPage w interceptors intercepting).2
  | grown {w grow nextId} (growth : w.Growth grow nextId) :
      Change t w { w with trees := w.trees.map grow, nextId }
  | paused (seconds w) : Change t w (pass seconds w)
  | noted (w requests handled log seen) : Change t w { w with requests, handled, log, seen }
  | switched (r enabled w) : Change t w ((setInterception r enabled).runOn w).2
  | registered (r interceptor w) : Change t w ((addInterceptor r interceptor).runOn w).2

/-- Any number of changes, one after another. -/
abbrev Changed (t : Backend) : StaticWorld → StaticWorld → Prop :=
  Relation.ReflTransGen (Change t)

theorem Changed.later {t : Backend} {w w' : StaticWorld} (changed : Changed t w w') : Later w w' := by
  induction changed with
  | refl => exact refl w
  | tail _ change ih =>
    refine IsTrans.trans _ _ _ ih ?_
    cases change with
    | visited r visit => exact navigateVia_later t r visit _
    | opened interceptors intercepting => exact later_openPage _ interceptors intercepting
    | grown growth => exact growth.later
    | paused seconds => exact later_pass seconds _
    | noted requests handled log seen => exact later_of_same rfl rfl rfl
    | switched r enabled =>
      exact changePage_later r (fun p => { p with intercepting := enabled }) (fun _ => rfl) _
    | registered r interceptor =>
      exact changePage_later r (fun p => { p with interceptors := p.interceptors ++ [interceptor] })
        (fun _ => rfl) _

theorem changed_append (t : Backend) {w w' : StaticWorld} {document : Nat} {e : NewElement}
    (done : w.append document e = .ok w') : Changed t w w' := by
  obtain rfl | ⟨parent, new, numbers, rfl⟩ := append_ok done
  · exact .refl
  · exact .single (.grown (growth_appendTo w parent numbers))

/-- What scripted callbacks do but for taking elements out of documents. -/
theorem callVia_changed (t : Backend) {c : Callback} (adds : ∀ selector, c ≠ .remove selector) (r : PageRef)
    (items : List Item) : Moves (Changed t) (callVia t c r items) := by
  refine moves_callVia t (fun r visit w => .single (.visited r visit w))
    (fun w => .single (.opened [] false w)) (fun w seen => .single (.noted w _ _ _ seen))
    (changed_append t) (fun selector same => absurd same (adds selector)) r items

/-- Static pages with callbacks of any kind. -/
def hosting (t : Backend) (call : C → PageRef → List Item → Act StaticWorld (Answer PageRef)) :
    Host StaticWorld PageRef Nat C :=
  { hostVia t with call }

theorem hosting_later {t : Backend} {call : C → PageRef → List Item → Act StaticWorld (Answer PageRef)}
    (adds : ∀ c page items, Moves (Changed t) (call c page items)) : HostMoves Later (hosting t call) where
  navigate := navigateVia_later t
  waitFor r selector ms root :=
    .bind (moves_await (fun _ _ _ => later_pass _ _) t r selector ms root) fun _ => .pure _
  queryAll := moves_queryAll t.engine
  extract := moves_extract t.engine
  call c page items w := (adds c page items w).later
  sleep := later_pass
  emit _ _ := later_of_same rfl rfl rfl

/-- Scripted callbacks that take nothing out of documents. -/
abbrev Adding : Type :=
  { c : Callback // ∀ selector, c ≠ .remove selector }

/-- Static pages with such callbacks. -/
def addingHost : Host StaticWorld PageRef Nat Adding :=
  hosting .scripted fun c => call c.1

section Searches
variable {engine : Css.Engine} (below : engine.PicksBelow)
include below

/-- A search that succeeds changes nothing, and finds elements below its root. -/
theorem queryAll_ok {r : PageRef} {selector : String} {root : Option Nat} {w w' : StaticWorld}
    {found : List Nat} (run : (queryAll engine r selector root).runOn w = (.ok found, w')) : w' = w ∧
    ∃ shown, w.documentOf r = some shown ∧
      ∀ i ∈ found, ∃ p, w.place? (root.getD shown) = some p ∧ i ∈ p.node.numbers := by
  have same : w = w' := by
    have kept := moves_queryAll (R := Eq) engine r selector root w
    rwa [run] at kept
  subst same
  refine ⟨rfl, ?_⟩
  obtain ⟨start, w₁, rooted, run⟩ := Act.runOn_bind_ok run
  obtain ⟨pick, w₂, read, run⟩ := Act.runOn_bind_ok run
  obtain ⟨v, w₃, looked, run⟩ := Act.runOn_bind_ok run
  cases looked
  obtain ⟨p, w₄, paged, rooted⟩ := Act.runOn_bind_ok rooted
  cases rooted
  have shown : w.documentOf r = some p.document := by
    cases r with
    | nothing => cases paged
    | page n =>
      obtain ⟨v, w₅, looked, paged⟩ := Act.runOn_bind_ok paged
      cases looked
      split at paged
      · rename_i p' entry
        cases paged
        rw [documentOf, entry]
        rfl
      · cases paged
  cases run
  have reading : engine selector = .ok pick := congrArg Prod.fst read
  refine ⟨p.document, shown, fun i mem => ?_⟩
  cases place : w.place? (root.getD p.document) with
  | none =>
    rw [place] at mem
    cases mem
  | some q =>
    rw [place] at mem
    obtain ⟨x, selected, numbered⟩ := List.mem_filterMap.mp mem
    exact ⟨q, rfl, Html.Place.numbers_of_mem_descendants (below reading q x selected)
      (Node.mem_numbers_of_id? numbered)⟩

theorem queryRoots_ok {h : Host StaticWorld PageRef Nat C} (queries : h.queryAll = queryAll engine)
    {r : PageRef} {selector : String} {roots : List (Option Nat)} {w w' : StaticWorld}
    {handles : List Nat}
    (run : (Handler.queryRoots h r selector roots).runOn w = (.ok handles, w')) : w' = w ∧
    ∀ i ∈ handles, ∃ shown, w.documentOf r = some shown ∧
      ∃ root ∈ roots, ∃ p, w.place? (root.getD shown) = some p ∧ i ∈ p.node.numbers := by
  induction roots generalizing w handles with
  | nil =>
    cases run
    exact ⟨rfl, nofun⟩
  | cons root rest ih =>
    obtain ⟨found, w₁, first, run⟩ := Act.runOn_bind_ok run
    obtain ⟨others, w₂, later, run⟩ := Act.runOn_bind_ok run
    cases run
    rw [queries] at first
    obtain ⟨rfl, shown, same, inside⟩ := queryAll_ok below first
    obtain ⟨rfl, more⟩ := ih later
    refine ⟨rfl, fun i mem => ?_⟩
    rcases List.mem_append.mp mem with here | there
    · obtain ⟨p, place, inside⟩ := inside i here
      exact ⟨shown, same, root, List.mem_cons_self, p, place, inside⟩
    · obtain ⟨shown, same, root, mem, p, place, inside⟩ := more i there
      exact ⟨shown, same, root, List.mem_cons_of_mem _ mem, p, place, inside⟩

end Searches

/-- The element `i` is in the document that a page shows. -/
def Attached (w : StaticWorld) (r : PageRef) (i : Nat) : Prop :=
  ∃ d, w.documentOf r = some d ∧ w.Holds d i

instance (w : StaticWorld) (d i : Nat) : Decidable (w.Holds d i) :=
  inferInstanceAs (Decidable (∃ t ∈ w.trees, t.id? = some d ∧ i ∈ t.numbers))

instance (w : StaticWorld) (r : PageRef) (i : Nat) : Decidable (w.Attached r i) :=
  decidable_of_iff (∃ d ∈ w.documentOf r, w.Holds d i) Iff.rfl

/-- Whether handles of a scope are from a document that the page no longer shows, after a step: so it
was before, or the page has got another document, unless the scope is the whole document. -/
def staleAfter (stale : Bool) (w w' : StaticWorld) (next : ReplayState PageRef Nat) : Bool :=
  !next.scope.isDocument && (stale || w'.documentOf next.page != w.documentOf next.page)

/-- States that replaying steps on a page leads to. -/
inductive Reached (h : Host StaticWorld PageRef Nat C) (d : Defaults) (page : PageRef)
    (start : StaticWorld) :
    List (Step C) → (stale : Bool) → ReplayState PageRef Nat → StaticWorld → Prop where
  | start : Reached h d page start [] false (.initial page) start
  | step {steps stale state w next w'} (before : Reached h d page start steps stale state w)
      {index s} (run : (runStep h d Handler.standard index s state).runOn w = (.ok next, w')) :
      Reached h d page start (steps ++ [s]) (staleAfter stale w w' next) next w'

/-- Every handle is from some document, and `stale` tells whether that is another one than the page
shows. -/
structure Rooted (stale : Bool) (state : ReplayState PageRef Nat) (w : StaticWorld) : Prop where
  sound : w.Sound
  wide : state.scope.isDocument → stale = false
  roots : ∀ i, some i ∈ state.scope.roots → ∃ d shown, w.Holds d i ∧
    w.documentOf state.page = some shown ∧ (stale = true ↔ shown ≠ d)

namespace Rooted
variable {stale : Bool} {state next : ReplayState PageRef Nat} {w w' : StaticWorld}

theorem widened (sound : w'.Sound) (wide : next.scope = .document) :
    Rooted (staleAfter stale w w' next) next w' where
  sound := sound
  wide _ := by rw [staleAfter, wide]; rfl
  roots i mem := by
    rw [wide] at mem
    cases List.mem_singleton.mp mem

theorem kept (rooted : Rooted stale state w) (later : Later w w') (page : next.page = state.page)
    (scope : next.scope = state.scope) : Rooted (staleAfter stale w w' next) next w' := by
  refine ⟨later.sound rooted.sound, fun wide => by rw [staleAfter, wide]; rfl, fun i mem => ?_⟩
  rw [scope] at mem
  obtain ⟨d, shown, holds, shows, exactly⟩ := rooted.roots i mem
  have narrow : next.scope.isDocument = false := by
    rw [scope]
    cases scope' : state.scope with
    | document =>
      rw [scope'] at mem
      cases List.mem_singleton.mp mem
    | grouped handles => rfl
  obtain ⟨shown', shows', same | new⟩ := later.pages shows
  · subst same
    refine ⟨d, shown', later.holds holds, page ▸ shows', ?_⟩
    simp [staleAfter, narrow, page, shows, shows', exactly]
  · have shown_lt := rooted.sound.holds_lt (rooted.sound.shows shows)
    have d_lt := rooted.sound.holds_lt holds
    have changed : shown' ≠ shown := by omega
    have other : shown' ≠ d := by omega
    refine ⟨d, shown', later.holds holds, page ▸ shows', ?_⟩
    simp [staleAfter, narrow, page, shows, shows', changed, other]

theorem narrowed (rooted : Rooted stale state w) {handles : List Nat}
    (found : ∀ i ∈ handles, ∃ shown, w.documentOf state.page = some shown ∧
      ∃ root ∈ state.scope.roots, ∃ p, w.place? (root.getD shown) = some p ∧ i ∈ p.node.numbers) :
    Rooted stale (state.withScope (.grouped handles)) w := by
  refine ⟨rooted.sound, nofun, fun i mem => ?_⟩
  obtain ⟨j, has, same⟩ := List.mem_map.mp mem
  cases same
  obtain ⟨shown, shows, root, root_mem, p, place, inside⟩ := found i has
  cases root with
  | some start =>
    obtain ⟨d, shown', holds, shows', exactly⟩ := rooted.roots start root_mem
    exact ⟨d, shown', rooted.sound.holds_of_place holds place inside, shows', exactly⟩
  | none =>
    have wide : state.scope.isDocument := by
      cases scope : state.scope with
      | document => rfl
      | grouped handles =>
        rw [scope] at root_mem
        obtain ⟨_, _, never⟩ := List.mem_map.mp root_mem
        cases never
    refine ⟨shown, shown, rooted.sound.holds_of_place (rooted.sound.shows shows) place inside, shows, ?_⟩
    simp [rooted.wide wide]

theorem step {t : Backend} (below : t.engine.PicksBelow)
    {call : C → PageRef → List Item → Act StaticWorld (Answer PageRef)}
    (adds : ∀ c page items, Moves (Changed t) (call c page items)) {d : Defaults} {index : Nat} {s : Step C}
    (rooted : Rooted stale state w)
    (run : (runStep (hosting t call) d Handler.standard index s state).runOn w = (.ok next, w')) :
    Rooted (staleAfter stale w w' next) next w' := by
  have later := (hosting_later adds).runStep d index s state w
  rw [run] at later
  obtain ⟨e, makes⟩ := runStep_ok run
  cases makes with
  | visited visit => exact widened (later.sound rooted.sound) rfl
  | waited selector timeoutMs => exact rooted.kept later rfl rfl
  | grouped found => exact (rooted.narrowed (queryRoots_ok below rfl found).2).kept later rfl rfl
  | selected read => exact rooted.kept later rfl rfl
  | called callback page items =>
    by_cases same : page = state.page
    · refine rooted.kept later same ?_
      simp [hosting, hostVia, same]
    · refine widened (later.sound rooted.sound) ?_
      simp [hosting, hostVia, same]

end Rooted

theorem Reached.rooted {t : Backend} (below : t.engine.PicksBelow)
    {call : C → PageRef → List Item → Act StaticWorld (Answer PageRef)}
    (adds : ∀ c page items, Moves (Changed t) (call c page items)) {d : Defaults} {page : PageRef}
    {start w : StaticWorld} (sound : start.Sound) {steps : List (Step C)} {stale : Bool}
    {state : ReplayState PageRef Nat}
    (reached : Reached (hosting t call) d page start steps stale state w) : Rooted stale state w := by
  induction reached with
  | start => exact ⟨sound, fun _ => rfl, fun i mem => by cases List.mem_singleton.mp mem⟩
  | step before run ih => exact ih.step below adds run

/-- All states of a replay are reached. -/
theorem reached_of_runSteps {h : Host StaticWorld PageRef Nat C} {d : Defaults} {page : PageRef}
    {start w w' : StaticWorld} {steps rest : List (Step C)} {index : Nat} {stale : Bool}
    {state final : ReplayState PageRef Nat} (before : Reached h d page start steps stale state w)
    (run : (runSteps h d Handler.standard index rest state).runOn w = (.ok final, w')) :
    ∃ stale', Reached h d page start (steps ++ rest) stale' final w' := by
  induction rest generalizing index steps stale state w with
  | nil =>
    cases run
    rw [List.append_nil]
    exact ⟨stale, before⟩
  | cons s rest ih =>
    obtain ⟨mid, w₁, first, run⟩ := Act.runOn_bind_ok run
    obtain ⟨stale', reached⟩ := ih (before.step first) run
    rw [List.append_assoc] at reached
    exact ⟨stale', reached⟩

/-- At every step of a replay with callbacks that work on documents, visit and replace pages, the roots are
the whole document or elements of the document that the page shows, unless a callback has visited the
page of a narrowed scope and handed it back; then they are not, until the scope is widened. -/
theorem handles_attached {t : Backend} (below : t.engine.PicksBelow)
    {call : C → PageRef → List Item → Act StaticWorld (Answer PageRef)}
    (adds : ∀ c page items, Moves (Changed t) (call c page items)) {d : Defaults} {page : PageRef}
    {start w : StaticWorld} (sound : start.Sound) {steps : List (Step C)} {stale : Bool}
    {state : ReplayState PageRef Nat}
    (reached : Reached (hosting t call) d page start steps stale state w) :
    ∀ root ∈ state.scope.roots, root = none ∨
      ∃ i, root = some i ∧ (w.Attached state.page i ↔ stale = false) := by
  intro root mem
  cases root with
  | none => exact .inl rfl
  | some i =>
    have rooted := reached.rooted below adds sound
    obtain ⟨d, shown, holds, shows, exactly⟩ := rooted.roots i mem
    refine .inr ⟨i, rfl, ?_⟩
    constructor
    · rintro ⟨shown', shows', holds'⟩
      cases shows.symm.trans shows'
      rw [← Bool.not_eq_true, exactly, not_not]
      exact rooted.sound.holds_unique holds' holds
    · intro fresh
      have same : shown = d := by
        by_contra other
        rw [exactly.mpr other] at fresh
        cases fresh
      exact ⟨d, same ▸ shows, holds⟩

/-- A callback that adds to the document keeps the handle of a paragraph in it. -/
theorem handles_attached_after_addition :
    Css.engine.PicksBelow ∧
    (∀ (c : Adding) page items, Moves (Changed .scripted) (call c.1 page items)) ∧
    Sound (openPage { site := [("http://a/", { markup := "<p>1" })], start := 0, now := 0 } [] false).2 ∧
    ∃ stale state w, Reached addingHost {} (.page 0)
        (openPage { site := [("http://a/", { markup := "<p>1" })], start := 0, now := 0 } [] false).2
        [.navigate ⟨"http://a/", "GET", .null⟩, .groupBy "p",
          .eval ⟨.append ⟨"p", "b", some "2", []⟩, nofun⟩] stale state w ∧
      state.scope.roots = [some 4] ∧
      ∀ root ∈ state.scope.roots, root = none ∨
        ∃ i, root = some i ∧ (w.Attached state.page i ↔ stale = false) := by
  have adds (c : Adding) (page : PageRef) (items : List Item) : Moves (Changed .scripted) (call c.1 page items) :=
    callVia_changed .scripted c.2 page items
  have sound : Sound (openPage
      { site := [("http://a/", { markup := "<p>1" })], start := 0, now := 0 } [] false).2 :=
    (later_openPage _ _ _).sound (sound_of_empty rfl rfl)
  obtain ⟨state, w, run, roots⟩ := Act.exists_ok
    (runSteps addingHost {} Handler.standard 0 [.navigate ⟨"http://a/", "GET", .null⟩, .groupBy "p",
      .eval ⟨.append ⟨"p", "b", some "2", []⟩, nofun⟩] (.initial (.page 0)))
    (openPage { site := [("http://a/", { markup := "<p>1" })], start := 0, now := 0 } [] false).2
    (fun state _ => state.scope.roots == [some 4]) (by decide +kernel)
  obtain ⟨stale, reached⟩ := reached_of_runSteps .start run
  exact ⟨Css.engine_picksBelow, adds, sound, stale, state, w, reached, beq_iff_eq.mp roots,
    handles_attached Css.engine_picksBelow adds sound reached⟩

/-- A callback that visits another address and hands the page back leaves a handle in the scope that is not
in the new document. -/
theorem handle_outlives_document :
    ∃ stale state w, Reached addingHost {} (.page 0)
      (openPage { site := [("http://a/", { markup := "<p>1" }), ("http://b/", { markup := "<p>2" })],
                  start := 0, now := 0 } [] false).2
      [.navigate ⟨"http://a/", "GET", .null⟩, .groupBy "p", .eval ⟨.goto "http://b/", nofun⟩]
      stale state w ∧ some 4 ∈ state.scope.roots ∧ ¬ w.Attached state.page 4 := by
  obtain ⟨state, w, run, held⟩ := Act.exists_ok
    (runSteps addingHost {} Handler.standard 0 [.navigate ⟨"http://a/", "GET", .null⟩, .groupBy "p",
      .eval ⟨.goto "http://b/", nofun⟩] (.initial (.page 0)))
    (openPage { site := [("http://a/", { markup := "<p>1" }), ("http://b/", { markup := "<p>2" })],
                start := 0, now := 0 } [] false).2
    (fun state w => decide (some 4 ∈ state.scope.roots ∧ ¬ w.Attached state.page 4)) (by decide +kernel)
  obtain ⟨stale, reached⟩ := reached_of_runSteps .start run
  exact ⟨stale, state, w, reached, of_decide_eq_true held⟩

end PageHarvest.StaticWorld
