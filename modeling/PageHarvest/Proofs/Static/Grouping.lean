import Mathlib.Data.List.Flatten
import PageHarvest.Proofs.Replay.Steps
import PageHarvest.Proofs.Static.Numbering

/-!
Groupings of static pages. Whatever engine finds elements, as long as it lists them in document order,
groupings of elements that are not inside one another keep that order and list nothing twice. In general an
element comes up once for each root that it is found below.
-/
namespace PageHarvest.StaticWorld
open Html (Node Place numbersAmong)
open Replay
variable {C : Type}

/-- What is found for a selector below a place, if there is such a place. -/
abbrev Engine : Type := String → Option Place → Except Failure (List Nat)

/-- What is found are elements inside the one at the place, each once and in document order. -/
def Engine.Lists (engine : Engine) : Prop :=
  ∀ {selector p found}, engine selector (some p) = .ok found → found.Sublist (numbersAmong p.node.children)

/-- The numbers of the elements that are picked. -/
def Engine.of (engine : Css.Engine) : Engine := fun selector place => do
  let pick ← engine selector
  return (place.map fun p => (pick p).filterMap Place.id?).getD []

theorem Engine.css_lists : (Engine.of Css.engine).Lists := by
  intro selector p found done
  obtain ⟨pick, reading, done⟩ := bind_ok_iff.mp done
  obtain ⟨s, -, rfl⟩ := Css.engine_ok reading
  cases done
  rw [← Place.id?_descendants]
  exact List.filter_sublist.filterMap _

/-- Searches by an engine, below a root or the document of the page. -/
def queryAllVia (engine : Engine) (r : PageRef) (selector : String) (root : Option Nat) :
    Act StaticWorld (List Nat) := do
  let root ← rootOf r root
  Act.ofExcept (engine selector ((← get).place? root))

theorem queryAllVia_of (engine : Css.Engine) : queryAllVia (.of engine) = queryAll engine := by
  funext r selector root w
  show (queryAllVia (.of engine) r selector root).runOn w = (queryAll engine r selector root).runOn w
  unfold queryAllVia queryAll Engine.of
  rw [Act.runOn_bind, Act.runOn_bind]
  cases engine selector <;> rfl

/-- A host that looks for elements by an engine and changes the log alone by its events. -/
structure Searches (engine : Engine) (g : Host StaticWorld PageRef Nat C) : Prop where
  queryAll : g.queryAll = queryAllVia engine
  emit : ∀ e w, ∃ log, g.emit e w = { w with log }

theorem Serves.searches {t : Backend} {g : Host StaticWorld PageRef Nat C} (serves : Serves t g) :
    Searches (.of t.engine) g :=
  ⟨serves.queryAll.trans (queryAllVia_of t.engine).symm, serves.emit⟩

/-- The elements that a scope begins at; the whole document begins at its own. -/
def starts (document : Nat) (scope : Scope Nat) : List Nat :=
  scope.roots.map (·.getD document)

/-- The page shows the document whose tree is `t`. -/
structure Displays (w : StaticWorld) (r : PageRef) (document : Nat) (t : Node) : Prop where
  numbered : w.Numbered
  shown : w.documentOf r = some document
  mem : t ∈ w.trees
  top : t.id? = some document

theorem Numbered.exists_displays {w : StaticWorld} (numbered : w.Numbered) {r : PageRef} {document : Nat}
    (shown : w.documentOf r = some document) : ∃ t, Displays w r document t := by
  obtain ⟨t, mem, top, -⟩ := numbered.shows shown
  exact ⟨t, numbered, shown, mem, top⟩

/-- No element among `roots` is inside another one. -/
def Apart (t : Node) (roots : List Nat) : Prop :=
  ∀ r ∈ roots, ∀ r' ∈ roots, r' ∉ t.inside r

instance (t : Node) (roots : List Nat) : Decidable (Apart t roots) :=
  inferInstanceAs (Decidable (∀ r ∈ roots, ∀ r' ∈ roots, r' ∉ t.inside r))

/-- What a grouping makes of elements of a tree, when `found` are the matches below each. -/
structure Grouped (t : Node) (found : Nat → List Nat) (roots next : List Nat) : Prop where
  concatenated : next = roots.flatMap found
  inside : ∀ r ∈ roots, (found r).Sublist (t.inside r)
  count : ∀ i, next.count i = roots.countP fun r => i ∈ t.inside r ∧ i ∈ found r

theorem grouped_of_inside {t : Node} {found : Nat → List Nat} {roots : List Nat} (distinct : t.numbers.Nodup)
    (inside : ∀ r ∈ roots, (found r).Sublist (t.inside r)) : Grouped t found roots (roots.flatMap found) where
  concatenated := rfl
  inside := inside
  count i := by
    induction roots with
    | nil => rfl
    | cons r rest ih =>
      obtain ⟨here, others⟩ := List.forall_mem_cons.mp inside
      have once := ((here.trans t.inside_sublist).nodup distinct).count (a := i)
      rw [List.flatMap_cons, List.count_append, ih others, once, List.countP_cons, Nat.add_comm]
      congr 1
      by_cases mem : i ∈ found r
      · rw [if_pos mem, if_pos (decide_eq_true ⟨here.subset mem, mem⟩)]
      · rw [if_neg mem, if_neg (fun both => mem (of_decide_eq_true both).2)]

namespace Grouped
variable {t : Node} {found : Nat → List Nat} {roots next : List Nat} (grouped : Grouped t found roots next)
include grouped

theorem among : ∀ i ∈ next, i ∈ t.numbers := by
  intro i mem
  rw [grouped.concatenated, List.mem_flatMap] at mem
  obtain ⟨r, root, mem⟩ := mem
  exact t.inside_sublist.subset ((grouped.inside r root).subset mem)

/-- Roots in document order that are not inside one another lead to matches in document order. -/
theorem sublist (distinct : t.numbers.Nodup) (listed : roots.Sublist t.numbers) (apart : Apart t roots) :
    next.Sublist t.numbers := by
  rw [grouped.concatenated]
  exact (List.Sublist.flatMap_right roots grouped.inside).trans
    (t.flatMap_inside_sublist distinct listed apart)

end Grouped

namespace Displays
variable {w : StaticWorld} {r : PageRef} {document : Nat} {t : Node} (displays : Displays w r document t)
include displays

theorem distinct : t.numbers.Nodup :=
  displays.numbered.distinct t displays.mem

theorem relog (log : List Event) : Displays { w with log } r document t :=
  ⟨keepsNumbers_noted w _ _ log _ displays.numbered, displays.shown, displays.mem, displays.top⟩

theorem place {i : Nat} (mem : i ∈ t.numbers) :
    ∃ p, w.place? i = some p ∧ numbersAmong p.node.children = t.inside i := by
  obtain ⟨q, here⟩ := Place.exists_find? mem
  obtain ⟨p, place⟩ : ∃ p, w.place? i = some p := by
    refine Option.isSome_iff_exists.mp (List.findSome?_isSome_iff.mpr ⟨t, displays.mem, ?_⟩)
    rw [here]
    rfl
  obtain ⟨u, u_mem, search⟩ := List.exists_of_findSome?_eq_some place
  obtain ⟨has, within⟩ := Place.numbers_of_find? search
  cases displays.numbered.tree_unique displays.mem u_mem mem (within i has)
  exact ⟨p, place, Place.inside_of_find? displays.distinct search⟩

theorem queryAllVia_runOn (engine : Engine) (selector : String) (root : Option Nat) :
    (queryAllVia engine r selector root).runOn w = (engine selector (w.place? (root.getD document)), w) := by
  have shown := displays.shown
  unfold queryAllVia
  rw [Act.runOn_bind, rootOf_runOn]
  cases r with
  | nothing => cases shown
  | page n =>
    obtain ⟨p, entry, rfl⟩ := Option.map_eq_some_iff.mp shown
    simp only [page, Act.runOn_bind, Act.runOn_get, entry]
    rfl

/-- A search below several roots finds what the engine finds below each, one after another. -/
theorem queryRoots_ok {engine : Engine} (lists : engine.Lists) {g : Host StaticWorld PageRef Nat C}
    (searches : Searches engine g) {selector : String} {roots : List (Option Nat)}
    (inTree : ∀ i ∈ roots.map (·.getD document), i ∈ t.numbers) {handles : List Nat} {w' : StaticWorld}
    (run : (Handler.queryRoots g r selector roots).runOn w = (.ok handles, w')) : w' = w ∧
    ∃ found, (∀ i ∈ roots.map (·.getD document), engine selector (w.place? i) = .ok (found i)) ∧
      Grouped t found (roots.map (·.getD document)) handles := by
  rw [Handler.queryRoots_eq_mapM, searches.queryAll] at run
  obtain ⟨each, rfl, asked⟩ := Act.runOn_map_ok run
  rw [Act.runOn_mapM_of_still fun root _ => displays.queryAllVia_runOn engine selector root] at asked
  obtain ⟨done, rfl⟩ := Prod.mk.inj asked
  obtain ⟨found, answers⟩ : ∃ found : Nat → List Nat, ∀ i l,
      engine selector (w.place? i) = .ok l → found i = l :=
    ⟨fun i => (engine selector (w.place? i)).toOption.getD [],
      fun i l here => congrArg (·.toOption.getD []) here⟩
  have answered : ∀ i ∈ roots.map (·.getD document), engine selector (w.place? i) = .ok (found i) := by
    intro i mem
    obtain ⟨root, root_mem, rfl⟩ := List.mem_map.mp mem
    obtain ⟨l, -, here⟩ := (ok_of_mapM done).1 root root_mem
    rw [answers _ l here, here]
  refine ⟨rfl, found, answered, ?_⟩
  have joined : each.flatten = (roots.map (·.getD document)).flatMap found := by
    rw [← map_of_mapM (fun root : Option Nat => answers (root.getD document)) done, List.flatMap_map,
      List.flatMap_def]
  rw [joined]
  refine grouped_of_inside displays.distinct fun i mem => ?_
  obtain ⟨p, place, inside⟩ := displays.place (inTree i mem)
  have here := answered i mem
  rw [place] at here
  exact inside ▸ lists here

end Displays

section Chains
variable {engine : Engine} (lists : engine.Lists) {g : Host StaticWorld PageRef Nat C}
  (searches : Searches engine g) {d : Defaults} {index : Nat} {state next final : ReplayState PageRef Nat}
  {w w' : StaticWorld} {document : Nat} {t : Node}
include lists searches

/-- One grouping: the scope becomes what the engine finds below each root, and nothing but the log changes. -/
theorem groupBy_ok (displays : Displays w state.page document t) {selector : String}
    (inTree : ∀ i ∈ starts document state.scope, i ∈ t.numbers)
    (run : (runStep g d Handler.standard index (.groupBy selector) state).runOn w = (.ok next, w')) :
    next.page = state.page ∧ (∃ log, w' = { w with log }) ∧
    ∃ found, (∀ i ∈ starts document state.scope, engine selector (w.place? i) = .ok (found i)) ∧
      Grouped t found (starts document state.scope) (starts document next.scope) := by
  obtain ⟨w₁, e, handled, rfl⟩ := handled_of_runStep rfl run
  obtain ⟨log, announced⟩ := searches.emit (startEvent index (.groupBy selector : Step C)) w
  rw [announced] at handled
  obtain ⟨handles, w₂, asked, handled⟩ := Act.runOn_bind_ok handled
  obtain ⟨rfl, found, answers, grouped⟩ := (displays.relog log).queryRoots_ok lists searches inTree asked
  obtain ⟨_, w₃, matched, handled⟩ := Act.runOn_bind_ok handled
  cases matched
  cases handled
  refine ⟨rfl, ?_, found, answers, ?_⟩
  · obtain ⟨log', noted⟩ := searches.emit ⟨.debug, "group_by.matched", [("selector", .text selector),
      ("parents", .int state.scope.roots.length), ("count", .int handles.length)]⟩ { w with log }
    obtain ⟨log'', closed⟩ := searches.emit e { w with log := log' }
    exact ⟨log'', by rw [noted, closed]⟩
  · have wide : starts document (.grouped handles) = handles := by
      simp [starts, Scope.roots]
    exact wide.symm ▸ grouped

/-- A row of groupings stays in the tree. As long as no roots are inside one another, it also stays in
document order. -/
theorem groupBys_ok (displays : Displays w state.page document t) {selectors : List String}
    (inTree : ∀ i ∈ starts document state.scope, i ∈ t.numbers)
    (run : (runSteps g d Handler.standard index (selectors.map .groupBy) state).runOn w = (.ok final, w')) :
    final.page = state.page ∧ (∃ log, w' = { w with log }) ∧
    (∀ i ∈ starts document final.scope, i ∈ t.numbers) ∧
    ((starts document state.scope).Sublist t.numbers →
      (∀ k mid v, k < selectors.length →
        (runSteps g d Handler.standard index ((selectors.take k).map .groupBy) state).runOn w = (.ok mid, v) →
        Apart t (starts document mid.scope)) →
      (starts document final.scope).Sublist t.numbers) := by
  induction selectors generalizing index state w with
  | nil =>
    cases run
    exact ⟨rfl, ⟨_, rfl⟩, inTree, fun listed _ => listed⟩
  | cons selector rest ih =>
    obtain ⟨next, w₁, first, others⟩ := Act.runOn_bind_ok run
    obtain ⟨page, ⟨log, rfl⟩, found, -, grouped⟩ := groupBy_ok lists searches displays inTree first
    have displays' : Displays { w with log } next.page document t := page ▸ displays.relog log
    obtain ⟨page', ⟨log', rfl⟩, inTree', keeps⟩ := ih displays' grouped.among others
    refine ⟨page'.trans page, ⟨log', rfl⟩, inTree', fun listed apart => keeps ?_ fun k mid v lt part => ?_⟩
    · exact grouped.sublist displays.distinct listed (apart 0 state w (Nat.succ_pos _) rfl)
    · refine apart (k + 1) mid v (Nat.succ_lt_succ lt) ?_
      show (runStep g d Handler.standard index (.groupBy selector) state >>= _).runOn w = _
      rw [Act.runOn_bind, first]
      exact part

end Chains

/-- A row of groupings from the whole document: the last scope has what was found below each root before it,
an element as often as there are roots that it was found below. It is in document order and has nothing twice
if after no grouping but the last one a root is inside another. -/
theorem groupings_keep_order {engine : Engine} (lists : engine.Lists) {g : Host StaticWorld PageRef Nat C}
    (searches : Searches engine g) {w w' : StaticWorld} {state final : ReplayState PageRef Nat}
    {document : Nat} {t : Node} (displays : Displays w state.page document t) (wide : state.scope = .document)
    {d : Defaults} {index : Nat} (selectors : List String) (last : String)
    (run : (runSteps g d Handler.standard index ((selectors ++ [last]).map .groupBy) state).runOn w =
      (.ok final, w')) :
    ∃ mid v found,
      (runSteps g d Handler.standard index (selectors.map .groupBy) state).runOn w = (.ok mid, v) ∧
      (∀ root ∈ mid.scope.roots,
        (g.queryAll state.page last root).runOn v = (.ok (found (root.getD document)), v)) ∧
      Grouped t found (starts document mid.scope) (starts document final.scope) ∧
      ((∀ k part u, 0 < k → k ≤ selectors.length →
          (runSteps g d Handler.standard index ((selectors.take k).map .groupBy) state).runOn w = (.ok part, u) →
          Apart t (starts document part.scope)) →
        (starts document final.scope).Sublist t.numbers ∧ (starts document final.scope).Nodup) := by
  have whole : starts document state.scope = [document] := by
    rw [wide]
    rfl
  have top := Node.mem_numbers_of_id? displays.top
  have inTree : ∀ i ∈ starts document state.scope, i ∈ t.numbers := by
    rw [whole]
    exact List.forall_mem_singleton.mpr top
  rw [List.map_append, runSteps_append] at run
  obtain ⟨mid, v, before, run⟩ := Act.runOn_bind_ok run
  rw [List.map_singleton, runSteps_singleton] at run
  obtain ⟨page, ⟨log, rfl⟩, inTree', keeps⟩ := groupBys_ok lists searches displays inTree before
  have displays' : Displays { w with log } mid.page document t := page ▸ displays.relog log
  obtain ⟨-, -, found, answers, grouped⟩ := groupBy_ok lists searches displays' inTree' run
  refine ⟨mid, _, found, before, fun root mem => ?_, grouped, fun apart => ?_⟩
  · rw [searches.queryAll, (displays.relog log).queryAllVia_runOn]
    exact congrArg (·, _) (answers _ (List.mem_map_of_mem mem))
  · have apart' (k : Nat) (part : ReplayState PageRef Nat) (u : StaticWorld) (le : k ≤ selectors.length)
        (run : (runSteps g d Handler.standard index ((selectors.take k).map .groupBy) state).runOn w =
          (.ok part, u)) : Apart t (starts document part.scope) := by
      cases k with
      | zero =>
        cases run
        rw [whole]
        refine List.forall_mem_singleton.mpr (List.forall_mem_singleton.mpr ?_)
        exact t.not_mem_inside_self displays.distinct displays.top
      | succ k => exact apart (k + 1) part u (Nat.succ_pos k) le run
    have listed := keeps (whole ▸ List.singleton_sublist.mpr top)
      fun k part u lt => apart' k part u (Nat.le_of_lt lt)
    have last_apart := apart' selectors.length mid { w with log } (Nat.le_refl _) (by rwa [List.take_length])
    have ordered := grouped.sublist displays.distinct listed last_apart
    exact ⟨ordered, ordered.nodup displays.distinct⟩

/-- A page with two lists, a third one inside the first. -/
def listsShown : StaticWorld :=
  ((navigate (.page 0) ⟨"http://a/", "GET", .null⟩).runOn (openPage
    { site := [("http://a/", { markup := "<ol><li>1<ul><li>2</ul></ol><ol><li>3</ol>" })], start := 0, now := 0 }
    [] false).2).2

theorem numbered_listsShown : listsShown.Numbered := by
  refine keepsNumbers_navigate .scripted _ _ _ (keepsNumbers_openPage _ _ _ ?_)
  exact numbered_of_empty rfl rfl

/-- The outer lists are apart, so that their items are listed once each and in order. -/
theorem groupings_keep_order_of_lists : ∃ t mid v found final w',
    Displays listsShown (.page 0) 1 t ∧
    (runSteps host {} Handler.standard 0 [.groupBy "ol", .groupBy "li"] (.initial (.page 0))).runOn listsShown =
      (.ok final, w') ∧
    (runSteps host {} Handler.standard 0 [.groupBy "ol"] (.initial (.page 0))).runOn listsShown = (.ok mid, v) ∧
    starts 1 mid.scope = [4, 8] ∧ starts 1 final.scope = [5, 7, 9] ∧
    Grouped t found (starts 1 mid.scope) (starts 1 final.scope) ∧
    (starts 1 final.scope).Sublist t.numbers := by
  have shown : listsShown.documentOf (.page 0) = some 1 := by decide +kernel
  obtain ⟨t, displays⟩ := numbered_listsShown.exists_displays shown
  obtain ⟨mid, v, before, middle⟩ := Act.exists_ok
    (runSteps host {} Handler.standard 0 [.groupBy "ol"] (.initial (.page 0))) listsShown
    (fun state _ => starts 1 state.scope == [4, 8]) (by decide +kernel)
  obtain ⟨final, w', run, ended⟩ := Act.exists_ok
    (runSteps host {} Handler.standard 0 [.groupBy "ol", .groupBy "li"] (.initial (.page 0))) listsShown
    (fun state _ => starts 1 state.scope == [5, 7, 9]) (by decide +kernel)
  have middle := beq_iff_eq.mp middle
  obtain ⟨mid', v', found, before', -, grouped, ordered⟩ := groupings_keep_order Engine.css_lists
    (hostVia_serves .scripted).searches displays rfl ["ol"] "li" run
  cases before.symm.trans before'
  refine ⟨t, mid, v, found, final, w', displays, run, before, middle, beq_iff_eq.mp ended, grouped,
    (ordered fun k part u positive le part_run => ?_).1⟩
  obtain rfl : k = 1 := Nat.le_antisymm le positive
  cases before.symm.trans part_run
  have apart : ∀ t ∈ listsShown.trees, Apart t [4, 8] := by decide +kernel
  exact middle ▸ apart t displays.mem

end PageHarvest.StaticWorld
