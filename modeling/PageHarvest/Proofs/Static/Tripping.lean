import PageHarvest.Proofs.Query.Rendering
import PageHarvest.Proofs.Static.Additivity
import PageHarvest.Proofs.Static.Extraction
import PageHarvest.Proofs.Static.Interception

/-!
Failures of static pages that are of no kind that callers tell apart. A step comes to one by a selector
that cannot be read, by a time that is out of range, or by a site that fails so.
-/
namespace PageHarvest

/-- A failure that is neither one of replaying a query, nor an unusable value, nor one of the
transport. -/
structure Failure.Untold (f : Failure) : Prop where
  query : f.cause.isQueryError = false
  badValue : f.cause.isBadValue = false
  transport : f.cause.isTransport = false

theorem Failure.untold_overflow (message : String) : Failure.Untold (Cause.overflow message) :=
  ⟨rfl, rfl, rfl⟩

theorem Failure.Untold.absurd_query {f : Failure} (untold : f.Untold) (query : f.cause.isQueryError = true) :
    False := by
  rw [untold.query] at query
  cases query

theorem Precision.untold_seconds (p : Precision) (ms : Int) : FailsWith Failure.Untold (p.seconds ms) := by
  unfold seconds
  split
  · exact .error (Failure.untold_overflow _)
  · exact .ok _

namespace StaticWorld
open Handler Replay
open Html (Place)
open Precision (double)
variable {C : Type}

/-- What a wait needs before it looks under a root: how long to sleep between looks, how much time is left,
and what to look for. -/
def sought (engine : Css.Engine) (d : Defaults) (selector : String) (span : Rat) :
    Except Failure (Place → List Place) := do
  let _ ← double.seconds (max d.pollIntervalMs 1)
  let _ ← double.milliseconds span
  engine selector

/-- What makes a step on a page fail with a failure that nobody is told of. -/
inductive Trips (t : Backend) (d : Defaults) (w : StaticWorld) (p : StaticPage)
    (roots : List (Option Nat)) : Step C → Failure → Prop where
  /-- The site answers a visit with such a failure. -/
  | visit {visit f} (away : visit.url ≠ blankUrl)
      (failed : (t.client w.site (visit.request [])).failure = some f) (untold : f.Untold) :
      Trips t d w p roots (.navigate visit) f
  /-- The end of a wait is out of range. -/
  | deadline {selector requested timeoutMs f} (timeout : effectiveTimeout d requested = .ok timeoutMs)
      (long : double.seconds timeoutMs = .error f) : Trips t d w p roots (.waitFor selector requested) f
  | wait {selector requested timeoutMs span f} (timeout : effectiveTimeout d requested = .ok timeoutMs)
      (told : double.seconds timeoutMs = .ok span) (searched : roots ≠ [])
      (fault : sought t.engine d selector span = .error f) (untold : f.Untold) :
      Trips t d w p roots (.waitFor selector requested) f
  | group {selector f} (searched : roots ≠ []) (refused : t.engine selector = .error f)
      (untold : f.Untold) : Trips t d w p roots (.groupBy selector) f
  /-- All fields before the one with such a selector have been read under the first root. -/
  | select {root others before field after f} (searched : roots = root :: others)
      (read : ∀ x ∈ before, ∃ v,
        extracted t.engine p.url (w.place? (root.getD p.document)) x.selector x.attr = .ok v)
      (refused : t.engine field.selector = .error f) (untold : f.Untold) :
      Trips t d w p roots (.select (before ++ field :: after)) f

section Steps
variable {t : Backend} {g : Host StaticWorld PageRef Nat C} {d : Defaults} {w : StaticWorld}
  {state : ReplayState PageRef Nat} {p : StaticPage} {f : Failure}

theorem Trips.untold {roots : List (Option Nat)} {s : Step C} (trips : Trips t d w p roots s f) :
    f.Untold := by
  cases trips with
  | visit _ _ untold => exact untold
  | deadline _ long => exact Precision.untold_seconds _ _ f long
  | wait _ _ _ _ untold => exact untold
  | group _ _ untold => exact untold
  | select _ _ _ untold => exact untold

/-- Notes change nothing about what a step meets. -/
theorem Trips.noted {roots : List (Option Nat)} {s : Step C} (trips : Trips t d w p roots s f)
    (log : List Event) : Trips t d { w with log } p roots s f := by
  cases trips with
  | visit away failed untold => exact .visit away failed untold
  | deadline timeout long => exact .deadline timeout long
  | wait timeout told searched fault untold => exact .wait timeout told searched fault untold
  | group searched refused untold => exact .group searched refused untold
  | select searched read refused untold => exact .select searched read refused untold

/-! Fields -/

theorem extracted_refused {engine : Css.Engine} {selector : String} (refused : engine selector = .error f)
    (url : String) (start : Option Place) (attr : Option String) :
    extracted engine url start selector attr = .error f := by
  unfold extracted
  rw [refused]
  rfl

/-- A link that cannot be resolved is told as an unusable value. -/
theorem refused_of_extracted {engine : Css.Engine} {url : String} {start : Option Place} {selector : String}
    {attr : Option String} (failed : extracted engine url start selector attr = .error f)
    (untold : f.Untold) : engine selector = .error f := by
  cases read : engine selector with
  | error f' =>
    rw [extracted_refused read] at failed
    cases failed
    rfl
  | ok pick =>
    have value : f.cause.isBadValue = true := by
      obtain ⟨-, -, -, -, -, -, -, ⟨-⟩ | ⟨-, -⟩⟩ := (extracted_error_iff read url start attr f).mp failed
      · rfl
      · rfl
    rw [untold.badValue] at value
    cases value

/-! Visits -/

theorem send_fails_iff (q : PageRequest) :
    ((send t q).runOn w).1 = .error f ↔ (t.client w.site q).failure = some f := by
  rw [send_eq_receive, Act.runOn_bind, Act.runOn_modify]
  dsimp only
  unfold receive
  rw [Act.runOn_bind, Act.runOn_get]
  dsimp only
  cases (t.client w.site q).latencyMs with
  | none => cases (t.client w.site q).failure <;> simp
  | some ms =>
    dsimp only
    rw [Act.runOn_bind, Act.runOn_modify]
    cases (t.client w.site q).failure <;> simp

theorem putUp_succeeds (r : PageRef) (q : PageRequest) (fetched : Int × String × String)
    (w : StaticWorld) : ∃ w', (putUp r q fetched).runOn w = (.ok ⟨some fetched.1, fetched.2.1⟩, w') := by
  cases r with
  | nothing => exact ⟨_, rfl⟩
  | page n => exact ⟨_, rfl⟩

section Here
variable (here : w.pageAt state.page = some p)
include here

/-- A visit of a page that is not intercepted fails exactly as the site does. -/
theorem navigateVia_fails_iff (plain : p.intercepting = false) (visit : Visit) :
    ((navigateVia t state.page visit).runOn w).1 = .error f ↔
      visit.url ≠ blankUrl ∧ (t.client w.site (visit.request [])).failure = some f := by
  by_cases away : visit.url = blankUrl
  · obtain ⟨trees, nextId, pages, run, -, -⟩ := display_runOn here blankUrl ""
    have blank : (visit.url == blankUrl) = true := beq_iff_eq.mpr away
    rw [navigateVia, Act.runOn_bind, page_runOn here]
    dsimp only
    rw [if_pos blank, Act.runOn_bind, run]
    simp [away]
  · have sent : fetch t p (visit.request []) = do
        let a ← send t (visit.request [])
        return (a.status, a.url.getD visit.url, a.markup) := by
      unfold fetch
      rw [plain]
      rfl
    rw [navigateVia_away t here away, Act.runOn_bind_error_iff, sent, Act.runOn_bind_error_iff,
      send_fails_iff]
    constructor
    · rintro ((failed | ⟨a, w₁, -, never⟩) | ⟨fetched, w₁, -, never⟩)
      · exact ⟨away, failed⟩
      · cases never
      · obtain ⟨w', done⟩ := putUp_succeeds state.page (visit.request []) fetched w₁
        rw [done] at never
        cases never
    · exact fun ⟨_, failed⟩ => .inl (.inl failed)

variable (serves : Serves t g)
include serves

/-- What a response stands for is told as a failure of replaying. -/
theorem navigateStep_trips_iff (plain : p.intercepting = false) (visit : Visit) :
    ((navigateStep g visit state).runOn w).1 = .error f ∧ f.Untold ↔
      Trips t d w p state.scope.roots (.navigate visit : Step C) f := by
  have responds (r : PageResponse) (failed : responseFault? (g.blank state.page) r = some f) :
      ¬ f.Untold := by
    intro untold
    refine untold.absurd_query ?_
    unfold responseFault? at failed
    split at failed
    · cases failed
      rfl
    · split at failed
      · split at failed
        · cases failed
          rfl
        · cases failed
      · cases failed
  unfold navigateStep
  rw [Act.runOn_bind_error_iff, serves.navigate, navigateVia_fails_iff here plain]
  constructor
  · rintro ⟨⟨away, failed⟩ | ⟨r, w₁, -, later⟩, untold⟩
    · exact .visit away failed untold
    · rw [Act.runOn_bind, runOn_log] at later
      dsimp only at later
      cases fault : responseFault? (g.blank state.page) r with
      | none =>
        rw [fault] at later
        cases later
      | some f' =>
        rw [fault] at later
        cases later
        exact absurd untold (responds r fault)
  · rintro ⟨away, failed, untold⟩
    exact ⟨.inl ⟨away, failed⟩, untold⟩

theorem groupStep_trips_iff (selector : String) :
    ((groupStep g selector state).runOn w).1 = .error f ∧ f.Untold ↔
      Trips t d w p state.scope.roots (.groupBy selector : Step C) f := by
  have still : ∀ root ∈ state.scope.roots, (g.queryAll state.page selector root).runOn w =
      ((t.engine selector).map fun pick => ((w.place? (root.getD p.document)).map fun q =>
        (pick q).filterMap Place.id?).getD [], w) := by
    intro root _
    rw [serves.queryAll, queryAll_runOn t.engine here]
  unfold groupStep
  rw [Act.runOn_bind_error_iff, queryRoots_eq_mapM, Act.runOn_map, Act.runOn_mapM_of_still still,
    map_error_iff, mapM_error_iff]
  constructor
  · rintro ⟨⟨before, root, after, split, -, failed⟩ | ⟨handles, w₁, -, never⟩, untold⟩
    · refine .group ?_ (map_error_iff.mp failed) untold
      rw [split]
      exact List.append_ne_nil_of_right_ne_nil before nofun
    · cases never
  · intro trips
    cases trips with
    | group searched refused untold =>
      obtain ⟨root, others, split⟩ := List.exists_cons_of_ne_nil searched
      exact ⟨.inl ⟨[], root, others, split, nofun, map_error_iff.mpr refused⟩, untold⟩

theorem selectStep_trips_iff (fields : List Field) :
    ((selectStep g fields state).runOn w).1 = .error f ∧ f.Untold ↔
      Trips t d w p state.scope.roots (.select fields : Step C) f := by
  obtain ⟨w', done⟩ := selectStep_runOn serves here fields
  rw [done, map_error_iff, mapM_error_iff]
  constructor
  · rintro ⟨⟨earlier, root, others, split, made, failed⟩, untold⟩
    obtain ⟨before, field, after, rfl, read, failed⟩ := mapM_error_iff.mp (map_error_iff.mp failed)
    have refused := refused_of_extracted failed untold
    -- such a selector shows under the first root, or never
    cases earlier with
    | nil => exact .select split read refused untold
    | cons first earlier =>
      obtain ⟨record, done⟩ := made first List.mem_cons_self
      obtain ⟨v, done⟩ := extracted_of_recordAt done (List.mem_append_right before List.mem_cons_self)
      rw [extracted_refused refused] at done
      cases done
  · intro trips
    have untold := trips.untold
    cases trips with
    | @select root others before field after _ split read refused untold =>
      refine ⟨⟨[], root, others, split, nofun, map_error_iff.mpr (mapM_error_iff.mpr ?_)⟩, untold⟩
      exact ⟨before, field, after, rfl, read, extracted_refused refused _ _ _⟩

variable (poll : w.pollIntervalMs = d.pollIntervalMs)
include poll

omit serves in
/-- Under each root, a wait needs the same before it looks; what is not there is told. -/
theorem attended_trips_iff {engine : Css.Engine} {selector : String} {timeoutMs : Int} {span : Rat}
    {root : Option Nat} : attended engine w d state.page selector timeoutMs span root = .error f ∧ f.Untold ↔
      sought engine d selector span = .error f ∧ f.Untold := by
  have looked : attended engine w d state.page selector timeoutMs span root = (do
      let pick ← sought engine d selector span
      if (w.first? pick (root.getD p.document)).isSome then .ok ⟨⟩
      else .error (Cause.selectorTimeout (.text selector) (.int timeoutMs))) := by
    unfold attended sought
    rw [searched_eq engine here, poll]
    cases double.seconds (max d.pollIntervalMs 1) with
    | error f => rfl
    | ok pause =>
      cases double.milliseconds span with
      | error f => rfl
      | ok left =>
        cases engine selector with
        | error f => rfl
        | ok pick =>
          dsimp only [bind, Except.bind, pure, Except.pure]
          cases w.first? pick (root.getD p.document) <;> rfl
  rw [looked, bind_error_iff]
  constructor
  · rintro ⟨failed | ⟨s, -, missed⟩, untold⟩
    · exact ⟨failed, untold⟩
    · split at missed
      · cases missed
      · cases missed
        exact (untold.absurd_query rfl).elim
  · exact fun ⟨failed, untold⟩ => ⟨.inl failed, untold⟩

variable (calm : t.Calm d.pollIntervalMs d.pollIntervalMs) (quiet : w.arrivals = [])
  (timely : Precision.Timely w.now)
include calm quiet timely

theorem waitInAll_trips_iff {selector : String} {timeoutMs : Int} {span : Rat}
    (told : double.seconds timeoutMs = .ok span) (roots : List (Option Nat)) :
    ((waitInAll g d selector timeoutMs (double.near (w.now + span)) state.page roots).runOn w).1 =
      .error f ∧ f.Untold ↔ roots ≠ [] ∧ sought t.engine d selector span = .error f ∧ f.Untold := by
  obtain ⟨w', run, -⟩ :=
    waitInAll_runOn serves d state.page selector told (poll ▸ calm) quiet timely roots
  rw [run, map_error_iff, mapM_error_iff]
  constructor
  · rintro ⟨⟨before, root, after, rfl, -, failed⟩, untold⟩
    refine ⟨List.append_ne_nil_of_right_ne_nil before nofun, ?_⟩
    exact (attended_trips_iff here poll).mp ⟨failed, untold⟩
  · rintro ⟨filled, fault⟩
    obtain ⟨root, others, split⟩ := List.exists_cons_of_ne_nil filled
    obtain ⟨failed, untold⟩ := (attended_trips_iff here poll).mpr fault
    exact ⟨⟨[], root, others, split, nofun, failed⟩, untold⟩

theorem waitStep_trips_iff (selector : String) {requested : Value}
    (timed : ∃ timeoutMs, effectiveTimeout d requested = .ok timeoutMs) :
    ((waitStep g d selector requested state).runOn w).1 = .error f ∧ f.Untold ↔
      Trips t d w p state.scope.roots (.waitFor selector requested : Step C) f := by
  obtain ⟨timeoutMs, timeout⟩ := timed
  have waits : ((waitStep g d selector requested state).runOn w).1 = (do
      let span ← double.seconds timeoutMs
      let _ ← ((waitInAll g d selector timeoutMs (double.near (w.now + span)) state.page
        state.scope.roots).runOn w).1
      return state) := by
    unfold waitStep
    simp only [Act.runOn_bind, Act.runOn_ofExcept, runOn_time, timeout, serves.precision, serves.now]
    cases double.seconds timeoutMs with
    | error f => rfl
    | ok span =>
      dsimp only [bind, Except.bind]
      rcases (waitInAll g d selector timeoutMs (double.near (w.now + span)) state.page
        state.scope.roots).runOn w with ⟨_ | _, _⟩ <;> rfl
  rw [waits, bind_error_iff]
  constructor
  · rintro ⟨long | ⟨span, told, later⟩, untold⟩
    · exact .deadline timeout long
    · obtain failed | ⟨_, -, never⟩ := bind_error_iff.mp later
      · obtain ⟨filled, fault, -⟩ :=
          (waitInAll_trips_iff here serves poll calm quiet timely told _).mp ⟨failed, untold⟩
        exact .wait timeout told filled fault untold
      · cases never
  · intro trips
    refine ⟨?_, trips.untold⟩
    cases trips with
    | deadline timeout' long =>
      cases timeout.symm.trans timeout'
      exact .inl long
    | wait timeout' told filled fault untold =>
      cases timeout.symm.trans timeout'
      have failed := (waitInAll_trips_iff here serves poll calm quiet timely told _).mpr ⟨filled, fault, untold⟩
      exact .inr ⟨_, told, bind_error_iff.mpr (.inl failed.1)⟩

end Here

theorem timed_of_isTimeout {requested : Value} (timeout : IsTimeout requested) :
    ∃ timeoutMs, effectiveTimeout d requested = .ok timeoutMs := by
  cases timeout with
  | absent => exact ⟨d.waitTimeoutMs, rfl⟩
  | count n => exact ⟨n, rfl⟩

/-- One step of a definition on a driver that is set as the replay is. -/
theorem runStep_trips_iff {u : Setting} (driver : Driver u w state.page) (plain : u.intercepting = false)
    (poll : u.pollIntervalMs = d.pollIntervalMs) (calm : t.Calm d.pollIntervalMs d.pollIntervalMs)
    (serves : Serves t g) {s : Step C} (definable : Query.Definable s) (index : Nat) :
    ((runStep g d Handler.standard index s state).runOn w).1 = .error f ∧ f.Untold ↔
      ∃ p, w.pageAt state.page = some p ∧ Trips t d w p state.scope.roots s f := by
  obtain ⟨p, here, -, intercepting⟩ := driver.page
  have only : (∃ p, w.pageAt state.page = some p ∧ Trips t d w p state.scope.roots s f) ↔
      Trips t d w p state.scope.roots s f := by
    rw [here]
    constructor
    · rintro ⟨_, ⟨⟩, trips⟩
      exact trips
    · exact fun trips => ⟨p, rfl, trips⟩
  -- the handler begins in a world with one more note
  obtain ⟨log, emitted⟩ := serves.emit (startEvent index s) w
  have noted : Trips t d (g.emit (startEvent index s) w) p state.scope.roots s f ↔
      Trips t d w p state.scope.roots s f := by
    rw [emitted]
    exact ⟨fun trips => trips.noted w.log, fun trips => trips.noted log⟩
  have there : (g.emit (startEvent index s) w).pageAt state.page = some p := by
    rw [emitted]
    exact (pageAt_congr rfl _).trans here
  have later := driver.emit serves (startEvent index s)
  have handled {go : ReplayState PageRef Nat → Act StaticWorld (ReplayState PageRef Nat)} {name : String}
      (found : findHandler Handler.standard g d s = some (name, fun state => some <$> go state)) :
      ((runStep g d Handler.standard index s state).runOn w).1 =
        ((go state).runOn (g.emit (startEvent index s) w)).1 := by
    rcases run : (go state).runOn (g.emit (startEvent index s) w) with ⟨out, w₁⟩
    rw [runStep_runOn found run]
  rw [only, ← noted]
  cases definable with
  | navigate visit =>
    rw [handled rfl]
    exact navigateStep_trips_iff there serves (intercepting.trans plain) visit
  | waitFor selector timeout =>
    rw [handled rfl]
    exact waitStep_trips_iff there serves (later.poll.trans poll) calm later.quiet later.timely selector
      (timed_of_isTimeout timeout)
  | groupBy selector =>
    rw [handled rfl]
    exact groupStep_trips_iff there serves selector
  | select fields =>
    rw [handled rfl]
    exact selectStep_trips_iff there serves fields

end Steps

/-! Replays -/

/-- What a replay of some steps has come to after the first `k` of them. -/
def Reaches {W P H C : Type} (h : Host W P H C) (d : Defaults) (steps : List (Step C)) (page : P)
    (runId : String) (w : W) (k : Nat) (state : ReplayState P H) (v : W) : Prop :=
  (runSteps (hostOfRun h runId) d Handler.standard 0 (steps.take k) (.initial page)).runOn
    ((hostOfRun h runId).emit (runStartEvent steps) w) = (.ok state, v)

/-- Records are handed over, so that a run without a selection is all that fails after its steps. -/
theorem handedOver_untold_iff {out : Except Failure (ReplayState PageRef Nat)} {f : Failure}
    (records : ∀ state, out = .ok state → ∃ rows : List Record, state.results = rows.map .record) :
    handedOver out = .error f ∧ f.Untold ↔ out = .error f ∧ f.Untold := by
  cases out with
  | error f' =>
    simp only [handedOver, bind, Except.bind, Except.error.injEq]
  | ok state =>
    obtain ⟨rows, results⟩ := records state rfl
    rw [handedOver_records results]
    constructor
    · rintro ⟨failed, untold⟩
      split at failed
      · cases failed
        exact (untold.absurd_query rfl).elim
      · cases failed
    · rintro ⟨⟨⟩, -⟩

section Runs
variable {t : Backend} {d : Defaults} {u : Setting}
  (uniform : t.Uniform u.site d.pollIntervalMs u.pollIntervalMs)
include uniform

/-- Steps of a query leave a driver as it was set, with records for results. -/
theorem Driver.runSteps {g : Host StaticWorld PageRef Nat Callback} (serves : Serves t g)
    {w : StaticWorld} {r : PageRef} (driver : Driver u w r) {steps : List (Step Callback)}
    (begins : steps ≠ [] → ∃ visit, steps.head? = some (.navigate visit))
    (free : ∀ callback, .eval callback ∉ steps) {state : ReplayState PageRef Nat} {v : StaticWorld}
    (run : (Replay.runSteps g d Handler.standard 0 steps (.initial r)).runOn w = (.ok state, v)) :
    Driver u v r ∧ state.page = r ∧ ∃ rows : List Record, state.results = rows.map .record := by
  by_cases none : steps = []
  · subst none
    cases run
    exact ⟨driver, rfl, [], rfl⟩
  · have alike := runSteps_alike uniform (begins none) free (d := d) serves serves driver driver
      (.initial r) (.initial r) rfl rfl 0 0
    rw [run] at alike
    cases alike with
    | done arrived =>
      obtain ⟨-, driver', rows, abreast⟩ := arrived
      exact ⟨driver', abreast.page', rows, abreast.results'⟩

variable {w : StaticWorld} {r : PageRef} (driver : Driver u w r) (plain : u.intercepting = false)
  (poll : u.pollIntervalMs = d.pollIntervalMs) {steps : List (Step Callback)}
  (begins : ∃ visit, steps.head? = some (.navigate visit)) (definable : ∀ s ∈ steps, Query.Definable s)
include driver plain poll begins definable

/-- A run fails so that nobody is told exactly when one of its steps does, after those before it have been
done. -/
theorem execute_trips_iff (id : String) (f : Failure) :
    ((execute (hostVia t) d Handler.standard steps r id).runOn w).1 = .error f ∧ f.Untold ↔
      ∃ k s state v p, steps[k]? = some s ∧ Reaches (hostVia t) d steps r id w k state v ∧
        v.pageAt state.page = some p ∧ Trips t d v p state.scope.roots s f := by
  have serves : Serves t (hostOfRun (hostVia t) id) := (hostVia_serves t).bind _
  have started := driver.emit serves (runStartEvent steps)
  have free (callback : Callback) : .eval callback ∉ steps := by
    intro mem
    exact (definable _ mem).not_eval callback rfl
  have kept (k : Nat) {state : ReplayState PageRef Nat} {v : StaticWorld}
      (reached : Reaches (hostVia t) d steps r id w k state v) :
      Driver u v r ∧ state.page = r ∧ ∃ rows : List Record, state.results = rows.map .record := by
    refine started.runSteps uniform serves (fun some => ?_)
      (fun callback mem => free callback (List.mem_of_mem_take mem)) reached
    have later : k ≠ 0 := fun zero => some (zero ▸ List.take_zero)
    rw [List.head?_take, if_neg later]
    exact begins
  have tripped {k : Nat} {s : Step Callback} {state : ReplayState PageRef Nat} {v : StaticWorld}
      (listed : steps[k]? = some s) (reached : Reaches (hostVia t) d steps r id w k state v) :
      ((runStep (hostOfRun (hostVia t) id) d Handler.standard k s state).runOn v).1 = .error f ∧ f.Untold ↔
        ∃ p, v.pageAt state.page = some p ∧ Trips t d v p state.scope.roots s f := by
    obtain ⟨driver', page, -⟩ := kept k reached
    have calm : t.Calm d.pollIntervalMs d.pollIntervalMs := poll ▸ uniform.toCalm
    exact runStep_trips_iff (page ▸ driver') plain poll calm serves
      (definable s (List.mem_of_getElem? listed)) k
  rcases run : (runSteps (hostOfRun (hostVia t) id) d Handler.standard 0 steps (.initial r)).runOn
    ((hostOfRun (hostVia t) id).emit (runStartEvent steps) w) with ⟨out, x⟩
  obtain ⟨v, done, -⟩ := execute_of_runSteps run
  rw [done, handedOver_untold_iff]
  · constructor
    · rintro ⟨failed, untold⟩
      obtain ⟨k, s, state, v, listed, reached, raised⟩ := Raises.of_runSteps (failed ▸ run)
      obtain ⟨p, here, trips⟩ := (tripped listed reached).mp ⟨congrArg Prod.fst raised, untold⟩
      exact ⟨k, s, state, v, p, listed, reached, here, trips⟩
    · rintro ⟨k, s, state, v, p, listed, reached, here, trips⟩
      obtain ⟨failed, untold⟩ := (tripped listed reached).mpr ⟨p, here, trips⟩
      have raises : Raises (hostOfRun (hostVia t) id) d Handler.standard steps (.initial r) _ k f _ :=
        ⟨s, state, v, listed, reached, Prod.ext failed rfl⟩
      rw [raises.runSteps] at run
      cases run
      exact ⟨rfl, untold⟩
  · rintro state rfl
    have all : steps.take steps.length = steps := List.take_length
    have reached : Reaches (hostVia t) d steps r id w steps.length state x := by rw [Reaches, all, run]
    exact (kept steps.length reached).2.2

end Runs

/-! Pages that are opened for a replay -/

section Opening
variable {own : Bool} {d : Defaults} {w : StaticWorld}

theorem newPage_fails_iff {f : Failure} : ((newPage own d).runOn w).1 = .error f ↔
    own = true ∧ HttpClient.ofDefaults d = .error f := by
  cases own with
  | false =>
    constructor
    · intro never
      cases never
    · rintro ⟨never, -⟩
      cases never
  | true =>
    unfold newPage
    simp only [if_true, true_and, Act.runOn_bind, Act.runOn_ofExcept]
    cases HttpClient.ofDefaults d with
    | error f' => simp
    | ok client =>
      constructor
      · intro never
        cases never
      · intro never
        cases never

theorem driver_newPage {r : PageRef} {v : StaticWorld} (quiet : w.arrivals = [])
    (timely : Precision.Timely w.now) (opened : (newPage own d).runOn w = (.ok r, v)) :
    Driver ⟨w.site, [], false, d.pollIntervalMs⟩ v r := by
  have fresh := driver_openPage (w := { w with pollIntervalMs := d.pollIntervalMs }) quiet timely [] false
  cases own with
  | false =>
    cases opened
    exact fresh
  | true =>
    obtain ⟨client, w₁, told, opened⟩ := Act.runOn_bind_ok opened
    rw [Act.runOn_ofExcept] at told
    cases (Prod.mk.inj told).2
    cases opened
    exact fresh

theorem untold_ofDefaults (d : Defaults) : FailsWith Failure.Untold (HttpClient.ofDefaults d) :=
  (Precision.untold_seconds _ _).bind fun _ => .ok _

/-- A replay that fails so that nobody is told: with the client of its page, or in a step. -/
inductive Lapses (t : Backend) (own : Bool) (d : Defaults) (q : Query Callback) (id : String)
    (w : StaticWorld) (f : Failure) : Prop where
  | client (owned : own = true) (long : HttpClient.ofDefaults d = .error f)
  | step {r v k s state x p} (opened : (newPage own d).runOn w = (.ok r, v))
      (listed : q.steps[k]? = some s) (reached : Reaches (hostVia t) d q.steps r id v k state x)
      (here : x.pageAt state.page = some p) (trips : Trips t d x p state.scope.roots s f)

theorem replay_lapses_iff {t : Backend} (quiet : w.arrivals = []) (on : Precision.Timely w.now)
    (uniform : t.Uniform w.site d.pollIntervalMs d.pollIntervalMs)
    {q : Query Callback} (definable : ∀ s ∈ q.steps, Query.Definable s)
    (id : String) (f : Failure) :
    ((q.replay (hostVia t) d (newPage own d) id).runOn w).1 = .error f ∧ f.Untold ↔
      Lapses t own d q id w f := by
  have ran {r : PageRef} {v : StaticWorld} (opened : (newPage own d).runOn w = (.ok r, v)) :=
    execute_trips_iff uniform (driver_newPage quiet on opened) rfl rfl ⟨_, rfl⟩ definable id f
  unfold Query.replay
  rw [Act.runOn_bind_error_iff, newPage_fails_iff]
  constructor
  · rintro ⟨⟨owned, long⟩ | ⟨r, v, opened, failed⟩, untold⟩
    · exact .client owned long
    · obtain ⟨k, s, state, x, p, listed, reached, here, trips⟩ := (ran opened).mp ⟨failed, untold⟩
      exact .step opened listed reached here trips
  · intro lapses
    cases lapses with
    | client owned long => exact ⟨.inl ⟨owned, long⟩, untold_ofDefaults d f long⟩
    | @step r v k s state x p opened listed reached here trips =>
      obtain ⟨failed, untold⟩ := (ran opened).mpr ⟨k, s, state, x, p, listed, reached, here, trips⟩
      exact ⟨.inr ⟨r, v, opened, failed⟩, untold⟩

end Opening
end StaticWorld
end PageHarvest
