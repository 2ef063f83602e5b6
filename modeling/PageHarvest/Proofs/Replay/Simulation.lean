import Mathlib.Data.List.Forall2
import PageHarvest.Proofs.Replay.Meaning
import PageHarvest.Proofs.Replay.Steps

/-!
Two replays side by side, on hosts whose pages answer alike. The executor asks pages and passes handles
on without looking into them, so steps that call nothing back fail alike on both, or add the same records.
-/
namespace PageHarvest
variable {W W' P P' H H' C K : Type}

namespace Act
variable {α α' β β' : Type}

/-- What two actions come to: the same failure, or answers that belong together. -/
inductive Outcomes (failed : W → W' → Prop) (later : α → α' → W → W' → Prop) :
    Except Failure α × W → Except Failure α' × W' → Prop where
  | failed {f w w'} (worlds : failed w w') : Outcomes failed later (.error f, w) (.error f, w')
  | done {x x' w w'} (answers : later x x' w w') : Outcomes failed later (.ok x, w) (.ok x', w')

/-- In worlds that `before` relates, two actions come to the same. -/
def Alike (failed before : W → W' → Prop) (later : α → α' → W → W' → Prop) (a : Act W α)
    (a' : Act W' α') : Prop :=
  ∀ w w', before w w' → Outcomes failed later (a.runOn w) (a'.runOn w')

namespace Alike
variable {failed before : W → W' → Prop} {later : α → α' → W → W' → Prop}
  {last : β → β' → W → W' → Prop}

theorem pure {x : α} {x' : α'} (related : ∀ {w w'}, before w w' → later x x' w w') :
    Alike failed before later (pure x) (pure x') :=
  fun _ _ worlds => .done (related worlds)

theorem bind {a : Act W α} {a' : Act W' α'} {g : α → Act W β} {g' : α' → Act W' β'}
    (first : Alike failed before later a a')
    (next : ∀ {x x'}, Alike failed (later x x') last (g x) (g' x')) :
    Alike failed before last (a >>= g) (a' >>= g') := by
  intro w w' worlds
  have answered := first w w' worlds
  rw [runOn_bind, runOn_bind]
  generalize a.runOn w = out at answered ⊢
  generalize a'.runOn w' = out' at answered ⊢
  cases answered with
  | failed worlds => exact .failed worlds
  | done answers => exact next _ _ answers

theorem weaken {before' : W → W' → Prop} {later' : α → α' → W → W' → Prop} {a : Act W α}
    {a' : Act W' α'} (alike : Alike failed before later a a')
    (sooner : ∀ {w w'}, before' w w' → before w w')
    (onward : ∀ {x x' w w'}, later x x' w w' → later' x x' w w') : Alike failed before' later' a a' := by
  intro w w' worlds
  have answered := alike w w' (sooner worlds)
  generalize a.runOn w = out at answered ⊢
  generalize a'.runOn w' = out' at answered ⊢
  cases answered with
  | failed worlds => exact .failed worlds
  | done answers => exact .done (onward answers)

theorem map {f : α → β} {f' : α' → β'} {a : Act W α} {a' : Act W' α'}
    (alike : Alike failed before later a a')
    (onward : ∀ {x x' w w'}, later x x' w w' → last (f x) (f' x') w w') :
    Alike failed before last (f <$> a) (f' <$> a') := by
  rw [map_eq_pure_bind, map_eq_pure_bind]
  exact alike.bind (.pure onward)

/-- Loops over what belongs together come to what belongs together. -/
theorem mapM {ι ι' : Type} {index : ι → ι' → Prop} {same : α → α' → Prop} {each : ι → Act W α}
    {each' : ι' → Act W' α'} {is : List ι} {is' : List ι'} (together : List.Forall₂ index is is')
    (body : ∀ {i i'}, index i i' →
      Alike failed before (fun x x' w w' => same x x' ∧ before w w') (each i) (each' i')) :
    Alike failed before (fun xs xs' w w' => List.Forall₂ same xs xs' ∧ before w w') (is.mapM each)
      (is'.mapM each') := by
  induction together with
  | nil => exact .pure fun worlds => ⟨.nil, worlds⟩
  | cons here _ ih =>
    rw [List.mapM_cons, List.mapM_cons]
    refine (body here).bind ?_
    rintro x x' w w' ⟨first, worlds⟩
    refine ih.bind ?_ w w' worlds
    rintro xs xs' w w' ⟨others, worlds⟩
    exact .done ⟨.cons first others, worlds⟩

end Alike
end Act

/-- Scopes of the same kind, whose handles belong together. -/
inductive Scope.Alike (handle : H → H' → Prop) : Scope H → Scope H' → Prop where
  | document : Alike handle .document .document
  | grouped {handles handles'} (each : List.Forall₂ handle handles handles') :
      Alike handle (.grouped handles) (.grouped handles')

theorem Scope.Alike.roots {handle : H → H' → Prop} {scope : Scope H} {scope' : Scope H'}
    (alike : Scope.Alike handle scope scope') :
    List.Forall₂ (Option.Rel handle) scope.roots scope'.roots := by
  cases alike with
  | document => exact .cons .none .nil
  | grouped each => exact List.rel_map (fun _ _ same => .some same) each

theorem Scope.Alike.kind {handle : H → H' → Prop} {scope : Scope H} {scope' : Scope H'}
    (alike : Scope.Alike handle scope scope') : scope.kind = scope'.kind := by
  cases alike <;> rfl

namespace Replay
open Handler
open Act (Alike)

section Reads
variable {h : Host W P H C} {h' : Host W' P' H' C} {page : P} {page' : P'} {handle : H → H' → Prop}
  {failed before : W → W' → Prop}

theorem queryRoots_alike {selector : String}
    (search : ∀ {root root'}, Option.Rel handle root root' →
      Alike failed before (fun found found' w w' => List.Forall₂ handle found found' ∧ before w w')
        (h.queryAll page selector root) (h'.queryAll page' selector root'))
    {roots : List (Option H)} {roots' : List (Option H')}
    (alike : List.Forall₂ (Option.Rel handle) roots roots') :
    Alike failed before (fun found found' w w' => List.Forall₂ handle found found' ∧ before w w')
      (queryRoots h page selector roots) (queryRoots h' page' selector roots') := by
  rw [queryRoots_eq_mapM, queryRoots_eq_mapM]
  refine (Alike.mapM alike search).map ?_
  rintro founds founds' w w' ⟨each, worlds⟩
  exact ⟨List.rel_flatten each, worlds⟩

theorem readFields_alike {root : Option H} {root' : Option H'}
    (read : ∀ selector attr, Alike failed before (fun v v' w w' => v = v' ∧ before w w')
      (h.extract page root selector attr) (h'.extract page' root' selector attr))
    (fields : List Field) (record : Record) :
    Alike failed before (fun read read' w w' => read = read' ∧ before w w')
      (readFields h page root record fields) (readFields h' page' root' record fields) := by
  rw [readFields_eq_mapM, readFields_eq_mapM]
  have together : List.Forall₂ (· = ·) fields fields := List.forall₂_same.mpr fun _ _ => rfl
  have body {f f' : Field} (same : f = f') : Alike failed before (fun v v' w w' => v = v' ∧ before w w')
      (h.extract page root f.selector f.attr) (h'.extract page' root' f'.selector f'.attr) :=
    same ▸ read f.selector f.attr
  refine (Alike.mapM together body).map ?_
  rintro values values' w w' ⟨each, worlds⟩
  rw [List.forall₂_eq_eq_eq] at each
  exact ⟨each ▸ rfl, worlds⟩

theorem readRecords_alike {fields : List Field}
    (read : ∀ {root root'}, Option.Rel handle root root' → ∀ selector attr,
      Alike failed before (fun v v' w w' => v = v' ∧ before w w')
        (h.extract page root selector attr) (h'.extract page' root' selector attr))
    {roots : List (Option H)} {roots' : List (Option H')}
    (alike : List.Forall₂ (Option.Rel handle) roots roots') :
    Alike failed before (fun rows rows' w w' => rows = rows' ∧ before w w')
      (readRecords h page fields roots) (readRecords h' page' fields roots') := by
  rw [readRecords_eq_mapM, readRecords_eq_mapM]
  refine (Alike.mapM alike fun related => readFields_alike (read related) fields []).weaken id ?_
  rintro rows rows' w w' ⟨each, worlds⟩
  rw [List.forall₂_eq_eq_eq] at each
  exact ⟨each, worlds⟩

end Reads

/-- Two hosts with a page each that answer alike. Worlds may be `ready` for a visit of both pages; after it
both pages show `k`, and `handle k` says which handles belong together. -/
structure Mirror (h : Host W P H C) (h' : Host W' P' H' C) (d : Defaults) (page : P) (page' : P')
    (K : Type) where
  ready : W → W' → Prop
  shows : K → W → W' → Prop
  failed : W → W' → Prop
  handle : K → H → H' → Prop
  ready_of_shows : ∀ {k w w'}, shows k w w' → ready w w'
  failed_of_ready : ∀ {w w'}, ready w w' → failed w w'
  emit_ready : ∀ {w w'} e e', ready w w' → ready (h.emit e w) (h'.emit e' w')
  emit_shows : ∀ {k w w'} e e', shows k w w' → shows k (h.emit e w) (h'.emit e' w')
  emit_failed : ∀ {w w'} e e', failed w w' → failed (h.emit e w) (h'.emit e' w')
  blank : h.blank page = h'.blank page'
  navigate : ∀ visit, Alike failed ready (fun r r' w w' => r = r' ∧ ∃ k, shows k w w')
    (h.navigate page visit) (h'.navigate page' visit)
  queryAll : ∀ {k root root'} selector, Option.Rel (handle k) root root' →
    Alike failed (shows k) (fun found found' w w' => List.Forall₂ (handle k) found found' ∧ shows k w w')
      (h.queryAll page selector root) (h'.queryAll page' selector root')
  extract : ∀ {k root root'} selector attr, Option.Rel (handle k) root root' →
    Alike failed (shows k) (fun v v' w w' => v = v' ∧ shows k w w')
      (h.extract page root selector attr) (h'.extract page' root' selector attr)
  wait : ∀ {k scope scope'} selector requested results results' n n', Scope.Alike (handle k) scope scope' →
    Alike failed (shows k) (fun next next' w w' => next = ⟨page, scope, results, n⟩ ∧
        next' = ⟨page', scope', results', n'⟩ ∧ shows k w w')
      (waitStep h d selector requested ⟨page, scope, results, n⟩)
      (waitStep h' d selector requested ⟨page', scope', results', n'⟩)

/-- States of two replays that have added the same records, in `n` selections, since `base` and
`base'`. -/
structure Abreast (page : P) (page' : P') (base : ReplayState P H) (base' : ReplayState P' H')
    (rows : List Record) (n : Nat) (state : ReplayState P H) (state' : ReplayState P' H') : Prop where
  page : state.page = page
  page' : state'.page = page'
  results : state.results = base.results ++ rows.map .record
  results' : state'.results = base'.results ++ rows.map .record
  selects : state.selectsRun = base.selectsRun + n
  selects' : state'.selectsRun = base'.selectsRun + n

namespace Mirror
variable {h : Host W P H C} {h' : Host W' P' H' C} {d : Defaults} {page : P} {page' : P'}
  (m : Mirror h h' d page page' K)

def Arrived (base : ReplayState P H) (base' : ReplayState P' H') (n : Nat) (state : ReplayState P H)
    (state' : ReplayState P' H') (w : W) (w' : W') : Prop :=
  ∃ k rows, Abreast page page' base base' rows n state state' ∧
    Scope.Alike (m.handle k) state.scope state'.scope ∧ m.shows k w w'

theorem log {before : W → W' → Prop}
    (kept : ∀ {w w'} e e', before w w' → before (h.emit e w) (h'.emit e' w')) (level : Level)
    (name : String) (fields fields' : Fields) :
    Alike m.failed before (fun _ _ => before) (h.log level name fields) (h'.log level name fields') :=
  fun _ _ related => .done (kept _ _ related)

section Steps
variable {base state : ReplayState P H} {base' state' : ReplayState P' H'} {rows : List Record} {n : Nat}
  {k : K} (abreast : Abreast page page' base base' rows n state state')
include abreast

theorem navigateStep (visit : Visit) :
    Alike m.failed m.ready (m.Arrived base base' n) (navigateStep h visit state)
      (Handler.navigateStep h' visit state') := by
  unfold Handler.navigateStep
  rw [abreast.page, abreast.page', m.blank]
  refine (m.navigate visit).bind ?_
  rintro r r' w w' ⟨rfl, k', shown⟩
  refine (m.log m.emit_shows .debug _ _ _).bind ?_ w w' shown
  intro _ _ w w' shown
  cases responseFault? (h'.blank page') r with
  | some f => exact .failed (m.failed_of_ready (m.ready_of_shows shown))
  | none =>
    exact .done ⟨k', rows, ⟨abreast.page, abreast.page', abreast.results, abreast.results',
      abreast.selects, abreast.selects'⟩, .document, shown⟩

variable (scope : Scope.Alike (m.handle k) state.scope state'.scope)
include scope

theorem waitStep (selector : String) (requested : Value) :
    Alike m.failed (m.shows k) (m.Arrived base base' n) (waitStep h d selector requested state)
      (Handler.waitStep h' d selector requested state') := by
  obtain ⟨p, scope, results, selects⟩ := state
  obtain ⟨p', scope', results', selects'⟩ := state'
  obtain rfl : p = page := abreast.page
  obtain rfl : p' = page' := abreast.page'
  refine (m.wait selector requested _ _ _ _ scope).weaken id ?_
  rintro _ _ w w' ⟨rfl, rfl, shown⟩
  exact ⟨k, rows, abreast, scope, shown⟩

theorem groupStep (selector : String) :
    Alike m.failed (m.shows k) (m.Arrived base base' n) (groupStep h selector state)
      (Handler.groupStep h' selector state') := by
  unfold Handler.groupStep
  rw [abreast.page, abreast.page']
  refine (queryRoots_alike (m.queryAll selector) scope.roots).bind ?_
  rintro found found' w w' ⟨each, shown⟩
  refine (m.log m.emit_shows .debug _ _ _).bind ?_ w w' shown
  intro _ _ w w' shown
  exact .done ⟨k, rows, ⟨abreast.page, abreast.page', abreast.results, abreast.results',
    abreast.selects, abreast.selects'⟩, .grouped each, shown⟩

theorem selectStep (fields : List Field) :
    Alike m.failed (m.shows k) (m.Arrived base base' (n + 1)) (selectStep h fields state)
      (Handler.selectStep h' fields state') := by
  unfold Handler.selectStep
  rw [abreast.page, abreast.page']
  refine (readRecords_alike (fun related selector attr => m.extract selector attr related) scope.roots).bind ?_
  rintro new new' w w' ⟨rfl, shown⟩
  refine (m.log m.emit_shows .debug _ _ _).bind ?_ w w' shown
  intro _ _ w w' shown
  refine .done ⟨k, rows ++ new, ⟨abreast.page, abreast.page', ?_, ?_, ?_, ?_⟩, scope, shown⟩
  · simp only [ReplayState.withRecords, abreast.results, List.append_assoc, List.map_append]
  · simp only [ReplayState.withRecords, abreast.results', List.append_assoc, List.map_append]
  · simp only [ReplayState.withRecords, abreast.selects, Nat.add_assoc]
  · simp only [ReplayState.withRecords, abreast.selects', Nat.add_assoc]

end Steps

section Runs
variable {base state : ReplayState P H} {base' state' : ReplayState P' H'} {n : Nat}

theorem arrived_emit {w : W} {w' : W'} (e e' : Event) (arrived : m.Arrived base base' n state state' w w') :
    m.Arrived base base' n state state' (h.emit e w) (h'.emit e' w') := by
  obtain ⟨k, rows, abreast, scope, shown⟩ := arrived
  exact ⟨k, rows, abreast, scope, m.emit_shows e e' shown⟩

/-- What two handlers do alike, the steps around them do alike, whatever they report. -/
theorem runStep_of_handler {before : W → W' → Prop}
    (kept : ∀ {w w'} e e', before w w' → before (h.emit e w) (h'.emit e' w')) {s : Step C} {name : String}
    {go : ReplayState P H → Act W (ReplayState P H)} {go' : ReplayState P' H' → Act W' (ReplayState P' H')}
    (found : findHandler Handler.standard h d s = some (name, fun state => some <$> go state))
    (found' : findHandler Handler.standard h' d s = some (name, fun state => some <$> go' state))
    (alike : Alike m.failed before (m.Arrived base base' n) (go state) (go' state')) (i i' : Nat) :
    Alike m.failed before (m.Arrived base base' n) (runStep h d Handler.standard i s state)
      (runStep h' d Handler.standard i' s state') := by
  intro w w' related
  have answered := alike _ _ (kept (startEvent i s) (startEvent i' s) related)
  rcases run : (go state).runOn (h.emit (startEvent i s) w) with ⟨out, w₁⟩
  rcases run' : (go' state').runOn (h'.emit (startEvent i' s) w') with ⟨out', w₁'⟩
  rw [run, run'] at answered
  rw [runStep_runOn found run, runStep_runOn found' run']
  cases answered with
  | failed worlds => exact .failed (m.emit_failed _ _ worlds)
  | done arrived => exact .done (m.arrived_emit _ _ arrived)

/-- A visit can be made in worlds that are ready, whatever the pages show. -/
theorem runStep_navigate {rows : List Record} (abreast : Abreast page page' base base' rows n state state')
    (visit : Visit) (i i' : Nat) :
    Alike m.failed m.ready (m.Arrived base base' n)
      (runStep h d Handler.standard i (.navigate visit) state)
      (runStep h' d Handler.standard i' (.navigate visit) state') :=
  m.runStep_of_handler m.emit_ready rfl rfl (m.navigateStep abreast visit) i i'

theorem runStep_alike {s : Step C} (free : ∀ callback, s ≠ .eval callback) (i i' : Nat) :
    Alike m.failed (m.Arrived base base' n state state')
      (m.Arrived base base' (n + [s].countP isSelection))
      (runStep h d Handler.standard i s state) (runStep h' d Handler.standard i' s state') := by
  rintro w w' ⟨k, rows, abreast, scope, shown⟩
  -- only a visit does without what the pages show
  cases s with
  | navigate visit => exact m.runStep_navigate abreast visit i i' w w' (m.ready_of_shows shown)
  | waitFor selector requested =>
    have waited := m.waitStep abreast scope selector requested
    exact m.runStep_of_handler m.emit_shows rfl rfl waited i i' w w' shown
  | groupBy selector =>
    have grouped := m.groupStep abreast scope selector
    exact m.runStep_of_handler m.emit_shows rfl rfl grouped i i' w w' shown
  | select fields =>
    have selected := m.selectStep abreast scope fields
    exact m.runStep_of_handler m.emit_shows rfl rfl selected i i' w w' shown
  | eval callback => exact absurd rfl (free callback)
  | bare => exact .failed (m.failed_of_ready (m.ready_of_shows shown))

theorem runSteps_alike {steps : List (Step C)} (free : ∀ callback, .eval callback ∉ steps) (i i' : Nat) :
    Alike m.failed (m.Arrived base base' n state state')
      (m.Arrived base base' (n + steps.countP isSelection))
      (runSteps h d Handler.standard i steps state) (runSteps h' d Handler.standard i' steps state') := by
  induction steps generalizing i i' n state state' with
  | nil => exact .pure id
  | cons s rest ih =>
    have counted : (s :: rest).countP isSelection = [s].countP isSelection + rest.countP isSelection := by
      rw [← List.countP_append, List.singleton_append]
    rw [counted, ← Nat.add_assoc]
    have here (callback : C) : s ≠ .eval callback := by
      rintro rfl
      exact free callback List.mem_cons_self
    have others (callback : C) : .eval callback ∉ rest :=
      fun mem => free callback (List.mem_cons_of_mem s mem)
    exact (m.runStep_alike here i i').bind (ih others (i + 1) (i' + 1))

/-- Steps that begin with a visit do alike whatever the pages have shown before. -/
theorem runSteps_from_visit {steps : List (Step C)} (begins : ∃ visit, steps.head? = some (.navigate visit))
    (free : ∀ callback, .eval callback ∉ steps) {rows : List Record}
    (abreast : Abreast page page' base base' rows n state state') (i i' : Nat) :
    Alike m.failed m.ready (m.Arrived base base' (n + steps.countP isSelection))
      (runSteps h d Handler.standard i steps state) (runSteps h' d Handler.standard i' steps state') := by
  obtain ⟨visit, first⟩ := begins
  cases steps with
  | nil => cases first
  | cons s rest =>
    cases first
    have others (callback : C) : .eval callback ∉ rest :=
      fun mem => free callback (List.mem_cons_of_mem _ mem)
    exact (m.runStep_navigate abreast visit i i').bind (m.runSteps_alike others (i + 1) (i' + 1))

end Runs
end Mirror
end Replay
end PageHarvest
