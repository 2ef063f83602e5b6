import PageHarvest.Proofs.Static.Additivity

/-!
What drivers can have been through. While no element is yet to come up, nothing of it but how requests are
answered shows in a run that begins with a visit: the run comes to what it comes to on a new driver.
-/
namespace PageHarvest.StaticWorld
open Act (Moves)
open Replay

/-- What can have happened to drivers: visits, waits, code that worked on documents, runs whose callbacks
do the like, and other interceptors. -/
inductive Past (t : Backend) : StaticWorld → StaticWorld → Prop where
  | nothing (w) : Past t w w
  | both {w w' w''} (first : Past t w w') (second : Past t w' w'') : Past t w w''
  | visited (r visit w) : Past t w ((navigateVia t r visit).runOn w).2
  | awaited (r selector timeoutMs root w) : Past t w ((await t r selector timeoutMs root).runOn w).2
  | edited (w trees nextId) : Past t w { w with trees, nextId }
  | paused (seconds w) : Past t w (pass seconds w)
  | noted (w requests handled log seen) : Past t w { w with requests, handled, log, seen }
  | opened (interceptors intercepting w) : Past t w (openPage w interceptors intercepting).2
  | switched (r enabled w) : Past t w ((setInterception r enabled).runOn w).2
  | registered (r interceptor w) : Past t w ((addInterceptor r interceptor).runOn w).2
  | ran {C : Type} {g : Host StaticWorld PageRef Nat C} (serves : Serves t g)
      (calls : ∀ callback r items w, Past t w ((g.call callback r items).runOn w).2) (d steps r id w) :
      Past t w ((execute g d Handler.standard steps r id).runOn w).2

instance (t : Backend) : IsPreorder StaticWorld (Past t) where
  refl := .nothing
  trans _ _ _ := .both

/-- Drivers are still there, with what they were made with. -/
structure Kept (w w' : StaticWorld) : Prop where
  quiet : w'.arrivals = []
  site : w'.site = w.site
  poll : w'.pollIntervalMs = w.pollIntervalMs
  pages : w.pages.size ≤ w'.pages.size

/-- While no element is yet to come up, drivers are kept. -/
def Keeps (w w' : StaticWorld) : Prop :=
  w.arrivals = [] → Kept w w'

instance : IsPreorder StaticWorld Keeps where
  refl _ quiet := ⟨quiet, rfl, rfl, Nat.le_refl _⟩
  trans _ _ _ first second quiet := by
    have before := first quiet
    have after := second before.quiet
    exact ⟨after.quiet, after.site.trans before.site, after.poll.trans before.poll,
      Nat.le_trans before.pages after.pages⟩

theorem keeps_pass (seconds : Rat) (w : StaticWorld) : Keeps w (pass seconds w) := by
  intro quiet
  rw [pass_of_quiet quiet]
  exact ⟨quiet, rfl, rfl, Nat.le_refl _⟩

theorem keeps_changePage (r : PageRef) (change : StaticPage → StaticPage) :
    Moves Keeps (changePage r change) := by
  intro w quiet
  cases r with
  | nothing => exact ⟨quiet, rfl, rfl, Nat.le_refl _⟩
  | page n => exact ⟨quiet, rfl, rfl, Nat.le_of_eq (Array.size_modify ..).symm⟩

theorem keeps_display (r : PageRef) (url markup : String) : Moves Keeps (display r url markup) := by
  intro w quiet
  have parsed : Kept w (w.parse markup).2 := ⟨quiet, rfl, rfl, Nat.le_refl _⟩
  have shown := keeps_changePage r (fun p => { p with url, document := (w.parse markup).1 })
    (w.parse markup).2 parsed.quiet
  exact ⟨shown.quiet, shown.site, shown.poll, shown.pages⟩

theorem keeps_noted (w : StaticWorld) (requests handled log seen) :
    Keeps w { w with requests, handled, log, seen } :=
  fun quiet => ⟨quiet, rfl, rfl, Nat.le_refl _⟩

theorem keeps_navigateVia (t : Backend) (r : PageRef) (visit : Visit) :
    Moves Keeps (navigateVia t r visit) :=
  moves_navigate (fun w _ _ _ => keeps_pass _ w) (fun w _ _ _ => keeps_noted w _ _ _ w.seen) r (keeps_display r) visit

theorem keeps_host {C : Type} {t : Backend} {g : Host StaticWorld PageRef Nat C} (serves : Serves t g)
    (calls : ∀ callback r items, Moves Keeps (g.call callback r items)) : HostMoves Keeps g :=
  { serves.reads keeps_pass fun w log => keeps_noted w _ _ log _ with
    navigate := fun r visit => serves.navigate ▸ keeps_navigateVia t r visit
    call := calls }

theorem Past.keeps {t : Backend} {w w' : StaticWorld} (past : Past t w w') : Keeps w w' := by
  induction past with
  | nothing w => exact refl w
  | both first second before after => exact IsTrans.trans _ _ _ before after
  | visited r visit w => exact keeps_navigateVia t r visit w
  | awaited r selector timeoutMs root w =>
    exact moves_await (fun _ _ _ => keeps_pass _ _) t r selector timeoutMs root w
  | edited w trees nextId => exact fun quiet => ⟨quiet, rfl, rfl, Nat.le_refl _⟩
  | paused seconds w => exact keeps_pass seconds w
  | noted w requests handled log seen => exact keeps_noted w requests handled log seen
  | opened interceptors intercepting w =>
    intro quiet
    exact ⟨quiet, rfl, rfl, Nat.le_of_lt (by simp [openPage, parse])⟩
  | switched r enabled w => exact keeps_changePage r _ w
  | registered r interceptor w => exact keeps_changePage r _ w
  | ran serves _ d steps r id w calls =>
    exact (keeps_host serves fun callback r items w => calls callback r items w).execute d steps r id w

theorem past_append (t : Backend) {w w' : StaticWorld} {document : Nat} {e : NewElement}
    (done : w.append document e = .ok w') : Past t w w' := by
  obtain ⟨trees, nextId, rfl⟩ := edits_of_append done
  exact .edited w trees nextId

theorem past_detach (t : Backend) {w w' : StaticWorld} {document : Nat} {selector : String}
    (done : w.detach document selector = .ok w') : Past t w w' := by
  obtain ⟨trees, nextId, rfl⟩ := edits_of_detach done
  exact .edited w trees nextId

/-- What scripted callbacks do to drivers. -/
theorem callVia_past (t : Backend) (c : Callback) (r : PageRef) (items : List Item) :
    Moves (Past t) (callVia t c r items) := by
  refine moves_callVia t (fun r visit w => .visited r visit w) (fun w => .opened [] false w)
    (fun w seen => .noted w _ _ _ seen) (past_append t) (fun _ _ => past_detach t) r items

/-- A driver that is there at first is there in the end, with what it was made with. -/
theorem Past.driver {t : Backend} {w₀ w : StaticWorld} {r : PageRef} {p₀ : StaticPage}
    (past : Past t w₀ w) (quiet : w₀.arrivals = []) (there : w₀.pageAt r = some p₀)
    (clock : Precision.Timely w.now) : ∃ p, w.pageAt r = some p ∧
      Driver ⟨w₀.site, p.interceptors, p.intercepting, w₀.pollIntervalMs⟩ w r := by
  have kept := past.keeps quiet
  obtain ⟨p, here⟩ : ∃ p, w.pageAt r = some p := by
    cases r with
    | nothing => cases there
    | page n =>
      obtain ⟨inside, -⟩ := Array.getElem?_eq_some_iff.mp there
      exact ⟨_, Array.getElem?_eq_getElem (Nat.lt_of_lt_of_le inside kept.pages)⟩
  exact ⟨p, here, ⟨⟨p, here, rfl, rfl⟩, kept.site, kept.poll, kept.quiet, clock⟩⟩

theorem handedOver_congr {state state' : ReplayState PageRef Nat} (results : state.results = state'.results)
    (selects : state.selectsRun = state'.selectsRun) : handedOver (.ok state) = handedOver (.ok state') := by
  dsimp only [handedOver, bind, Except.bind]
  rw [results, selects]

section Runs
variable {t : Backend} {u : Setting} {d : Defaults}
  (uniform : t.Uniform u.site d.pollIntervalMs u.pollIntervalMs) {steps : List (Step Callback)}
  (begins : ∃ visit, steps.head? = some (.navigate visit)) (free : ∀ callback, .eval callback ∉ steps)
include uniform begins free

theorem execute_alike {w w' : StaticWorld} {r r' : PageRef} (driver : Driver u w r)
    (driver' : Driver u w' r') (id id' : String) : ∃ out v v' x,
      (execute (hostVia t) d Handler.standard steps r id).runOn w = (out, v) ∧
      (execute (hostVia t) d Handler.standard steps r' id').runOn w' = (out, v') ∧
      Exchanged w v x ∧ Exchanged w' v' x := by
  have serves (id : String) : Serves t (hostOfRun (hostVia t) id) := (hostVia_serves t).bind _
  have opening (id : String) := emit_offline (serves id) (runStartEvent steps)
  have alike := runSteps_alike uniform begins free (serves id) (serves id')
    (driver.emit (serves id) (runStartEvent steps)) (driver'.emit (serves id') (runStartEvent steps))
    (.initial r) (.initial r') rfl rfl 0 0
  rcases run : (runSteps (hostOfRun (hostVia t) id) d Handler.standard 0 steps (.initial r)).runOn
    ((hostOfRun (hostVia t) id).emit (runStartEvent steps) w) with ⟨last, x⟩
  rcases run' : (runSteps (hostOfRun (hostVia t) id') d Handler.standard 0 steps (.initial r')).runOn
    ((hostOfRun (hostVia t) id').emit (runStartEvent steps) w') with ⟨last', x'⟩
  rw [run, run'] at alike
  obtain ⟨v, done, closing⟩ := execute_of_runSteps run
  obtain ⟨v', done', closing'⟩ := execute_of_runSteps run'
  -- Abreast states may differ in their pages and roots, but only rows are handed over.
  obtain ⟨same, y, exchanged, exchanged'⟩ : handedOver last = handedOver last' ∧
      ∃ y, Exchanged ((hostOfRun (hostVia t) id).emit (runStartEvent steps) w) x y ∧
        Exchanged ((hostOfRun (hostVia t) id').emit (runStartEvent steps) w') x' y := by
    cases alike with
    | failed traffic => exact ⟨rfl, traffic⟩
    | done arrived =>
      obtain ⟨traffic, -, rows, abreast⟩ := arrived
      exact ⟨handedOver_congr (abreast.results.trans abreast.results'.symm)
        (abreast.selects.trans abreast.selects'.symm), traffic⟩
  rw [← same] at done'
  exact ⟨_, v, v', y, done, done', (exchanged.since (opening id w)).offline closing,
    (exchanged'.since (opening id' w')).offline closing'⟩

end Runs

/-- Whatever drivers have been through, a run that begins with a visit comes to what it comes to on a new
driver with the same interceptors, and requests the same. -/
theorem execute_forgets_past {t : Backend} {w₀ w : StaticWorld} {r : PageRef} {p₀ : StaticPage}
    (quiet : w₀.arrivals = []) (there : w₀.pageAt r = some p₀) (past : Past t w₀ w)
    (clock : Precision.Timely w.now) {v : StaticWorld} (site : v.site = w₀.site)
    (poll : v.pollIntervalMs = w₀.pollIntervalMs) (calm : v.arrivals = [])
    (clock' : Precision.Timely v.now) {d : Defaults}
    (uniform : t.Uniform w₀.site d.pollIntervalMs w₀.pollIntervalMs) {steps : List (Step Callback)}
    (begins : ∃ visit, steps.head? = some (.navigate visit)) (free : ∀ callback, .eval callback ∉ steps)
    (id id' : String) : ∃ p r' v₀ out w' v' x, w.pageAt r = some p ∧
      v.openPage p.interceptors p.intercepting = (r', v₀) ∧
      (execute (hostVia t) d Handler.standard steps r id).runOn w = (out, w') ∧
      (execute (hostVia t) d Handler.standard steps r' id').runOn v₀ = (out, v') ∧
      Exchanged w w' x ∧ Exchanged v₀ v' x := by
  obtain ⟨p, here, driver⟩ := past.driver quiet there clock
  have fresh := driver_openPage calm clock' p.interceptors p.intercepting
  rw [site, poll] at fresh
  obtain ⟨out, w', v', x, run, run', exchanged, exchanged'⟩ :=
    execute_alike uniform begins free driver fresh id id'
  exact ⟨p, _, _, out, w', v', x, here, rfl, run, run', exchanged, exchanged'⟩

/-- A run whose callback took an element out, on a page whose requests are intercepted since. -/
def usedShop : StaticWorld :=
  ((setInterception (.page 0) true).runOn
    ((execute host {} Handler.standard (followTea ++ [.eval (.remove "a")]) (.page 0) "1").runOn
      (atShop 0)).2).2

theorem past_usedShop : Past .scripted (atShop 0) usedShop :=
  .both (.ran (hostVia_serves _) (callVia_past _) _ _ _ _ _) (.switched _ _ _)

theorem execute_forgets_past_at_usedShop : ∃ (p : StaticPage) (r' : PageRef) (v₀ : StaticWorld)
    (rows : List Record) (w' v' : StaticWorld) (x : Traffic),
    p.intercepting = true ∧ rows.length = 2 ∧
    (atShop 7).openPage p.interceptors p.intercepting = (r', v₀) ∧
    (execute host {} Handler.standard listGoods (.page 0) "2").runOn usedShop = (.ok rows, w') ∧
    (execute host {} Handler.standard listGoods r' "1").runOn v₀ = (.ok rows, v') ∧
    Exchanged usedShop w' x ∧ Exchanged v₀ v' x := by
  have eight : Binary64.twoPow 3 = 8 := by norm_num [Binary64.twoPow]
  have less : Binary64.twoPow 3 ≤ Binary64.twoPow 900 := Binary64.twoPow_le_iff.mpr (by decide)
  have soon : Precision.Timely usedShop.now := by
    have quarter : usedShop.now = 1 / 4 := by decide +kernel
    rw [Precision.Timely, quarter, abs_of_pos (by norm_num)]
    linarith
  have late : Precision.Timely (atShop 7).now := by
    have seven : (atShop 7).now = 7 := rfl
    rw [Precision.Timely, seven, abs_of_pos (by norm_num)]
    linarith
  have free (callback : Callback) : .eval callback ∉ listGoods := by simp [listGoods]
  obtain ⟨p₀, there⟩ : ∃ p₀, (atShop 0).pageAt (.page 0) = some p₀ :=
    Option.isSome_iff_exists.mp (by decide +kernel)
  obtain ⟨p, r', v₀, out, w', v', x, here, opened, run, run', exchanged, exchanged'⟩ :=
    execute_forgets_past rfl there past_usedShop soon (v := atShop 7) rfl rfl rfl late
      (d := {}) (Backend.uniform_reacting shop_timely 50 50) ⟨_, rfl⟩ free "2" "1"
  obtain ⟨rows, _, done, two⟩ := Act.exists_ok
    (execute host {} Handler.standard listGoods (.page 0) "2") usedShop
    (fun rows _ => rows.length == 2) (by decide +kernel)
  have intercepting : (usedShop.pageAt (.page 0)).map (·.intercepting) = some true := by decide +kernel
  rw [here] at intercepting
  cases run.symm.trans done
  exact ⟨p, r', v₀, rows, _, v', x, Option.some.inj intercepting, beq_iff_eq.mp two, opened, run, run',
    exchanged, exchanged'⟩

end PageHarvest.StaticWorld
