import PageHarvest.Proofs.Replay.Agreement
import PageHarvest.Proofs.Static.Sameness

/-!
Replays that visit an address first. Nothing that a driver or the executor has come to before shows in
them, so that two of them in one run are like two runs.
-/
namespace PageHarvest.StaticWorld
open Replay

/-- Requests in order: those that were sent, and those that interceptors were asked about. -/
structure Traffic where
  sent : List PageRequest
  asked : List PageRequest

instance : Append Traffic :=
  ⟨fun x y => ⟨x.sent ++ y.sent, x.asked ++ y.asked⟩⟩

/-- What has been requested between two worlds. -/
structure Exchanged (w w' : StaticWorld) (x : Traffic) : Prop where
  requests : w'.requests = x.sent.reverse ++ w.requests
  handled : w'.handled = x.asked.reverse ++ w.handled

theorem Exchanged.trans {w w' w'' : StaticWorld} {x y : Traffic} (first : Exchanged w w' x)
    (second : Exchanged w' w'' y) : Exchanged w w'' (x ++ y) := by
  constructor
  · rw [second.requests, first.requests, ← List.append_assoc, ← List.reverse_append]
    rfl
  · rw [second.handled, first.handled, ← List.append_assoc, ← List.reverse_append]
    rfl

theorem Exchanged.offline {w w' w'' : StaticWorld} {x : Traffic} (first : Exchanged w w' x)
    (quiet : Offline w' w'') : Exchanged w w'' x :=
  ⟨quiet.1.trans first.requests, quiet.2.trans first.handled⟩

theorem Exchanged.since {w w' w'' : StaticWorld} {x : Traffic} (later : Exchanged w' w'' x)
    (quiet : Offline w w') : Exchanged w w'' x :=
  ⟨quiet.1 ▸ later.requests, quiet.2 ▸ later.handled⟩

theorem Aligned.exchanged {base base' w w' : StaticWorld} (aligned : Aligned base base' w w') :
    ∃ x, Exchanged base w x ∧ Exchanged base' w' x := by
  obtain ⟨⟨sent, requests, requests'⟩, ⟨asked, handled, handled'⟩⟩ := aligned
  refine ⟨⟨sent.reverse, asked.reverse⟩, ⟨?_, ?_⟩, ⟨?_, ?_⟩⟩
  all_goals
    dsimp only
    rw [List.reverse_reverse]
    assumption

section Runs
variable {C : Type} {t : Backend} {g : Host StaticWorld PageRef Nat C} (serves : Serves t g)
include serves

theorem emit_offline (e : Event) (w : StaticWorld) : Offline w (g.emit e w) := by
  obtain ⟨log, emitted⟩ := serves.emit e w
  rw [emitted]
  exact ⟨rfl, rfl⟩

theorem foldl_emit_offline (es : List Event) (w : StaticWorld) :
    Offline w (es.foldl (fun w e => g.emit e w) w) := by
  induction es generalizing w with
  | nil => exact ⟨rfl, rfl⟩
  | cons e rest ih =>
    obtain ⟨requests, handled⟩ := emit_offline serves e w
    obtain ⟨requests', handled'⟩ := ih (g.emit e w)
    exact ⟨requests'.trans requests, handled'.trans handled⟩

theorem Driver.emit {u : Setting} {w : StaticWorld} {r : PageRef} (driver : Driver u w r) (e : Event) :
    Driver u (g.emit e w) r := by
  obtain ⟨log, emitted⟩ := serves.emit e w
  rw [emitted]
  exact driver.noted _ _ _

end Runs

theorem handedOver_records {state : ReplayState PageRef Nat} {rows : List Record}
    (results : state.results = rows.map .record) :
    handedOver (.ok state) = if state.selectsRun == 0 then .error Cause.noResults else .ok rows := by
  have handed : state.results.mapM handOver = .ok rows := by rw [results, handOver_records]
  dsimp only [handedOver, bind, Except.bind]
  rw [handed]

theorem eq_of_handedOver_records {state : ReplayState PageRef Nat} {rows rows' : List Record}
    (results : state.results = rows.map .record) (handed : handedOver (.ok state) = .ok rows') :
    rows = rows' := by
  rw [handedOver_records results] at handed
  split at handed
  · cases handed
  · cases handed
    rfl

/-- Records that one of two runs had before are handed over before those that both have added. -/
theorem handedOver_further {r r' : PageRef} {base base' state state' : ReplayState PageRef Nat}
    {rows more : List Record} {n : Nat} (fresh : base.results = [])
    (before : base'.results = rows.map .record) (selected : n ≠ 0)
    (abreast : Abreast r r' base base' more n state state') :
    handedOver (.ok state') = (handedOver (.ok state)).map (rows ++ ·) := by
  have alone : state.results = more.map .record := by
    rw [abreast.results, fresh, List.nil_append]
  have together : state'.results = (rows ++ more).map .record := by
    rw [abreast.results', before, List.map_append]
  have counts : (state.selectsRun == 0) = false ∧ (state'.selectsRun == 0) = false := by
    rw [abreast.selects, abreast.selects']
    constructor
    · exact beq_eq_false_iff_ne.mpr (by omega)
    · exact beq_eq_false_iff_ne.mpr (by omega)
  rw [handedOver_records alone, handedOver_records together, counts.1, counts.2]
  rfl

section Runs
variable {t : Backend} {d : Defaults}

/-- A run ends as its steps do, and what it says of its end requests nothing. -/
theorem execute_of_runSteps {steps : List (Step Callback)} {r : PageRef} {id : String} {w x : StaticWorld}
    {out : Except Failure (ReplayState PageRef Nat)}
    (run : (runSteps (hostOfRun (hostVia t) id) d Handler.standard 0 steps (.initial r)).runOn
      ((hostOfRun (hostVia t) id).emit (runStartEvent steps) w) = (out, x)) :
    ∃ v, (execute (hostVia t) d Handler.standard steps r id).runOn w = (handedOver out, v) ∧
      Offline x v := by
  obtain ⟨ms, done⟩ := execute_runOn run
  exact ⟨_, done, foldl_emit_offline ((hostVia_serves t).bind _) _ x⟩

variable {u : Setting} (uniform : t.Uniform u.site d.pollIntervalMs u.pollIntervalMs)
  {steps : List (Step Callback)} (begins : ∃ visit, steps.head? = some (.navigate visit))
  (free : ∀ callback, .eval callback ∉ steps)
include uniform begins free

/-- Steps that begin with a visit come to the same on two drivers with the same setting, wherever in their
runs they stand. -/
theorem runSteps_alike {g g' : Host StaticWorld PageRef Nat Callback} (serves : Serves t g)
    (serves' : Serves t g') {w w' : StaticWorld} {r r' : PageRef} (driver : Driver u w r)
    (driver' : Driver u w' r') (state state' : ReplayState PageRef Nat) (page : state.page = r)
    (page' : state'.page = r') (i i' : Nat) :
    Act.Outcomes (fun x x' => ∃ y, Exchanged w x y ∧ Exchanged w' x' y)
      (fun next next' x x' => (∃ y, Exchanged w x y ∧ Exchanged w' x' y) ∧ Driver u x' r' ∧
        ∃ rows, Abreast r r' state state' rows (steps.countP isSelection) next next')
      ((runSteps g d Handler.standard i steps state).runOn w)
      ((runSteps g' d Handler.standard i' steps state').runOn w') := by
  have ready : Ready u r r' w w' w w' := ⟨driver, driver', ⟨[], rfl, rfl⟩, ⟨[], rfl, rfl⟩⟩
  have abreast : Abreast r r' state state' [] 0 state state' :=
    ⟨page, page', (List.append_nil _).symm, (List.append_nil _).symm, rfl, rfl⟩
  have answered := (mirror uniform serves serves' r r' w w').runSteps_from_visit begins free abreast i i'
    w w' ready
  generalize (runSteps g d Handler.standard i steps state).runOn w = out at answered ⊢
  generalize (runSteps g' d Handler.standard i' steps state').runOn w' = out' at answered ⊢
  cases answered with
  | failed aligned => exact .failed aligned.exchanged
  | done arrived =>
    obtain ⟨k, rows, abreast, -, showing⟩ := arrived
    rw [Nat.zero_add] at abreast
    exact .done ⟨showing.ready.aligned.exchanged, showing.ready.driver', rows, abreast⟩

/-- What a run of its own tells of its steps, when they are done on another driver after `rows` have been
read there. -/
theorem runSteps_of_execute {w w' v : StaticWorld} {r r' : PageRef} (driver : Driver u w r)
    (driver' : Driver u w' r') {g' : Host StaticWorld PageRef Nat Callback} (serves' : Serves t g')
    {state' : ReplayState PageRef Nat} (page' : state'.page = r') {rows : List Record}
    (before : state'.results = rows.map .record) (i' : Nat) {id : String}
    {out : Except Failure (List Record)}
    (run : (execute (hostVia t) d Handler.standard steps r id).runOn w = (out, v)) :
    ∃ out' x' y, (runSteps g' d Handler.standard i' steps state').runOn w' = (out', x') ∧
      Exchanged w v y ∧ Exchanged w' x' y ∧
      (steps.any isSelection = true → handedOver out' = out.map (rows ++ ·)) ∧
      ∀ more, out = .ok more → ∃ next, out' = .ok next ∧ next.page = r' ∧
        next.results = (rows ++ more).map .record ∧ Driver u x' r' := by
  have serves : Serves t (hostOfRun (hostVia t) id) := (hostVia_serves t).bind _
  have opening := emit_offline serves (runStartEvent steps) w
  have alike := runSteps_alike uniform begins free serves serves'
    (driver.emit serves (runStartEvent steps)) driver' (.initial r) state' rfl page' 0 i'
  rcases alone : (runSteps (hostOfRun (hostVia t) id) d Handler.standard 0 steps (.initial r)).runOn
    ((hostOfRun (hostVia t) id).emit (runStartEvent steps) w) with ⟨last, x⟩
  obtain ⟨_, done, closing⟩ := execute_of_runSteps alone
  obtain ⟨rfl, rfl⟩ := Prod.mk.inj (run.symm.trans done)
  rw [alone] at alike
  generalize (runSteps g' d Handler.standard i' steps state').runOn w' = after at alike ⊢
  cases alike with
  | @failed f _ x' traffic =>
    obtain ⟨y, exchanged, exchanged'⟩ := traffic
    refine ⟨_, x', y, rfl, (exchanged.since opening).offline closing, exchanged', fun _ => rfl, ?_⟩
    intro more never
    cases never
  | @done state next _ x' arrived =>
    obtain ⟨⟨y, exchanged, exchanged'⟩, driver', added, abreast⟩ := arrived
    refine ⟨_, x', y, rfl, (exchanged.since opening).offline closing, exchanged', ?_, ?_⟩
    · intro selects
      refine handedOver_further rfl before ?_ abreast
      have counted := countP_isSelection_eq_zero steps
      rw [selects] at counted
      exact beq_eq_false_iff_ne.mp counted
    · intro more handed
      obtain rfl := eq_of_handedOver_records abreast.results handed
      refine ⟨next, rfl, abreast.page', ?_, driver'⟩
      rw [abreast.results', before, List.map_append]

end Runs

theorem driver_openPage {w : StaticWorld} (quiet : w.arrivals = []) (timely : Precision.Timely w.now)
    (interceptors : List Interceptor) (intercepting : Bool) :
    Driver ⟨w.site, interceptors, intercepting, w.pollIntervalMs⟩
      (w.openPage interceptors intercepting).2 (w.openPage interceptors intercepting).1 :=
  ⟨⟨_, Array.getElem?_push_size, rfl, rfl⟩, rfl, rfl, quiet, timely⟩

theorem scripted_timely {site : Site}
    (prompt : ∀ e ∈ site, ∀ ms, e.2.latencyMs = some ms → |ms| ≤ Binary64.twoPow 840) :
    Backend.scripted.Timely site := by
  intro q ms late
  obtain ⟨e, mem, listed⟩ := exists_of_latency late
  exact prompt e mem ms listed

/-- Two runs that begin with a visit in one, on drivers with the same setting, whatever these have shown
before. If the first run returns, both together return its records and then those of the second run, or
fail as the second run does; and the requests are those of the first run and then those of the second. -/
theorem execute_append {t : Backend} {u : Setting} {d : Defaults}
    (uniform : t.Uniform u.site d.pollIntervalMs u.pollIntervalMs)
    {s₁ s₂ : List (Step Callback)} (begins₁ : ∃ visit, s₁.head? = some (.navigate visit))
    (begins₂ : ∃ visit, s₂.head? = some (.navigate visit)) (selects₂ : s₂.any isSelection = true)
    (free : ∀ callback, .eval callback ∉ s₁ ++ s₂) {w₁ w₂ w₃ : StaticWorld} {r₁ r₂ r₃ : PageRef}
    (driver₁ : Driver u w₁ r₁) (driver₂ : Driver u w₂ r₂) (driver₃ : Driver u w₃ r₃)
    {id₁ id₂ : String} (id₃ : String) {rows : List Record} {v₁ v₂ : StaticWorld}
    {out : Except Failure (List Record)}
    (first : (execute (hostVia t) d Handler.standard s₁ r₁ id₁).runOn w₁ = (.ok rows, v₁))
    (second : (execute (hostVia t) d Handler.standard s₂ r₂ id₂).runOn w₂ = (out, v₂)) :
    ∃ v₃ x₁ x₂, (execute (hostVia t) d Handler.standard (s₁ ++ s₂) r₃ id₃).runOn w₃ =
        (out.map (rows ++ ·), v₃) ∧
      Exchanged w₁ v₁ x₁ ∧ Exchanged w₂ v₂ x₂ ∧ Exchanged w₃ v₃ (x₁ ++ x₂) := by
  have serves : Serves t (hostOfRun (hostVia t) id₃) := (hostVia_serves t).bind _
  have free₁ (callback : Callback) : .eval callback ∉ s₁ :=
    fun mem => free callback (List.mem_append_left s₂ mem)
  have free₂ (callback : Callback) : .eval callback ∉ s₂ :=
    fun mem => free callback (List.mem_append_right s₁ mem)
  have opening := emit_offline serves (runStartEvent (s₁ ++ s₂)) w₃
  have fresh : (ReplayState.initial r₃ : ReplayState PageRef Nat).results =
      ([] : List Record).map .record := rfl
  -- the first steps leave a driver, which is as good as a fresh one for the others
  obtain ⟨_, a, x₁, run₁, exchanged₁, exchanged₁', -, returned⟩ := runSteps_of_execute uniform begins₁ free₁
    driver₁ (driver₃.emit serves (runStartEvent (s₁ ++ s₂))) serves rfl fresh 0 first
  obtain ⟨state, rfl, page, results, driver⟩ := returned rows rfl
  rw [List.nil_append] at results
  obtain ⟨out', b, x₂, run₂, exchanged₂, exchanged₂', handed, -⟩ := runSteps_of_execute uniform begins₂ free₂
    driver₂ driver serves page results (0 + s₁.length) second
  have both : (runSteps (hostOfRun (hostVia t) id₃) d Handler.standard 0 (s₁ ++ s₂) (.initial r₃)).runOn
      ((hostOfRun (hostVia t) id₃).emit (runStartEvent (s₁ ++ s₂)) w₃) = (out', b) := by
    rw [runSteps_append, Act.runOn_bind, run₁]
    exact run₂
  obtain ⟨v₃, done, closing⟩ := execute_of_runSteps both
  rw [handed selects₂] at done
  exact ⟨v₃, x₁, x₂, done, exchanged₁, exchanged₂,
    ((exchanged₁'.since opening).trans exchanged₂').offline closing⟩

/-- A listing, and a page behind it that takes its time. -/
def shop : Site :=
  [("http://shop/", { markup := "<li><b>Tea</b><li>" }),
   ("http://shop/tea", { markup := "<a href=../>", latencyMs := some 250 })]

def listGoods : List (Step Callback) :=
  [.navigate ⟨"http://shop/", "GET", .null⟩, .waitFor "li" .null, .groupBy "li",
    .select [⟨"name", "b", none⟩]]

def followTea : List (Step Callback) :=
  [.navigate ⟨"http://shop/tea", "GET", .null⟩, .select [⟨"link", "a", some "href"⟩]]

def atShop (now : Rat) : StaticWorld :=
  (openPage { site := shop, start := now, now } [] false).2

theorem shop_timely : Backend.scripted.Timely shop := by
  refine scripted_timely fun e mem ms given => ?_
  have less : Binary64.twoPow 8 ≤ Binary64.twoPow 840 := Binary64.twoPow_le_iff.mpr (by decide)
  have power : Binary64.twoPow 8 = 256 := by norm_num [Binary64.twoPow]
  rcases List.mem_cons.mp mem with rfl | mem
  · cases given
  · cases List.mem_singleton.mp mem
    cases given
    rw [abs_of_pos (by norm_num)]
    linarith

theorem execute_append_at_shop : ∃ rows₁ rows₂ v₁ v₂ v₃ x₁ x₂,
    (execute host {} Handler.standard listGoods (.page 0) "1").runOn (atShop 0) = (.ok rows₁, v₁) ∧
    (execute host {} Handler.standard followTea (.page 0) "2").runOn (atShop 0) = (.ok rows₂, v₂) ∧
    (execute host {} Handler.standard (listGoods ++ followTea) (.page 0) "3").runOn (atShop 7) =
      (.ok (rows₁ ++ rows₂), v₃) ∧
    rows₁.length = 2 ∧ rows₂.length = 1 ∧
    Exchanged (atShop 0) v₁ x₁ ∧ Exchanged (atShop 0) v₂ x₂ ∧ Exchanged (atShop 7) v₃ (x₁ ++ x₂) := by
  have driver (now : Rat) (timely : Precision.Timely now) := driver_openPage
    (w := { site := shop, start := now, now }) rfl timely [] false
  have early : Precision.Timely 0 := by
    rw [Precision.Timely, abs_zero]
    exact le_of_lt (Binary64.twoPow_pos _)
  have late : Precision.Timely 7 := by
    have eight : Binary64.twoPow 3 = 8 := by norm_num [Binary64.twoPow]
    have less : Binary64.twoPow 3 ≤ Binary64.twoPow 900 := Binary64.twoPow_le_iff.mpr (by decide)
    rw [Precision.Timely, abs_of_pos (by norm_num)]
    linarith
  obtain ⟨rows₁, v₁, first, two⟩ := Act.exists_ok
    (execute host {} Handler.standard listGoods (.page 0) "1") (atShop 0)
    (fun rows _ => rows.length == 2) (by decide +kernel)
  obtain ⟨rows₂, v₂, second, one⟩ := Act.exists_ok
    (execute host {} Handler.standard followTea (.page 0) "2") (atShop 0)
    (fun rows _ => rows.length == 1) (by decide +kernel)
  have free (callback : Callback) : .eval callback ∉ listGoods ++ followTea := by
    simp [listGoods, followTea]
  obtain ⟨v₃, x₁, x₂, both, traffic₁, traffic₂, traffic₃⟩ := execute_append
    (Backend.uniform_reacting shop_timely 50 50) ⟨_, rfl⟩ ⟨_, rfl⟩ rfl free (driver 0 early) (driver 0 early)
    (driver 7 late) "3" first second
  exact ⟨rows₁, rows₂, v₁, v₂, v₃, x₁, x₂, first, second, both, beq_iff_eq.mp two, beq_iff_eq.mp one,
    traffic₁, traffic₂, traffic₃⟩

end PageHarvest.StaticWorld
