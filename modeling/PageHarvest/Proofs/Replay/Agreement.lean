import PageHarvest.Proofs.Replay.StepByStep
import PageHarvest.Proofs.Replay.Uniqueness
import PageHarvest.Proofs.Static.Reading

/-!
Every replay without callbacks on pages that are only read comes to what its steps mean. The roots that
the executor carries along are at every step those that the steps before it lead to.
-/
namespace PageHarvest.Replay
open Handler
variable {W P H C K : Type}

section Content
variable {h : Host W P H C} {page : P} (reads : Reads h page K)

theorem InTurn.content {ι κ α : Type} {ask : ι → W → List κ → Except Failure α → W → Prop}
    {content : W → K} {still : K → Prop} {is : List ι} {w w' : W} {calls : List κ}
    {out : Except Failure (List α)} (asked : InTurn ask is w calls out w')
    (each : ∀ {i w calls out w'}, ask i w calls out w' → still (content w) → content w' = content w)
    (quiet : still (content w)) : content w' = content w := by
  induction asked with
  | nil w => rfl
  | next first others ih =>
    have kept := each first quiet
    exact (ih (kept ▸ quiet)).trans kept
  | stop failed => exact each failed quiet

include reads

theorem WaitedFor.content {selector : String} {ms : Int} {root : Option H} {w w' : W}
    {calls : List (NotedCall P H)} {out : Except Failure Unit}
    (asked : WaitedFor h page selector ms root w calls out w') (quiet : reads.still (reads.content w)) :
    reads.content w' = reads.content w := by
  have kept := reads.waitFor_content w selector ms root quiet
  rwa [asked.2] at kept

theorem Polled.content {wait : Wait} {root : Option H} {n : Nat} {w w' : W} {calls : List (NotedCall P H)}
    {out : Except Failure Unit} (polled : Polled h wait page root n w calls out w')
    (quiet : reads.still (reads.content w)) : reads.content w' = reads.content w := by
  induction polled with
  | found told asked => exact WaitedFor.content reads asked quiet
  | raised told asked other => exact WaitedFor.content reads asked quiet
  | expired told asked timeout late => exact WaitedFor.content reads asked quiet
  | restless told asked timeout early refused => exact WaitedFor.content reads asked quiet
  | @again _ _ _ w₁ _ _ _ _ _ told asked timeout early taken later ih =>
    have kept := WaitedFor.content reads asked quiet
    have slept := reads.sleep_content w₁ (shorter wait.poll (h.precision.near (wait.deadline - h.now w₁)))
      (kept ▸ quiet)
    exact (ih (slept.trans kept ▸ quiet)).trans (slept.trans kept)
  | unclocked fault => rfl

theorem Attended.content {d : Defaults} {selector : String} {timeoutMs : Int} {deadline : Rat}
    {root : Option H} {w w' : W} {calls : List (NotedCall P H)} {out : Except Failure Unit}
    (attended : Attended h d page selector timeoutMs deadline root w calls out w')
    (quiet : reads.still (reads.content w)) : reads.content w' = reads.content w := by
  cases attended with
  | polled interval polled => exact Polled.content reads polled quiet
  | unclocked fault => rfl

theorem Queried.content {selector : String} {root : Option H} {w w' : W}
    {calls : List (NotedCall P H)} {out : Except Failure (List H)}
    (asked : Queried h page selector root w calls out w') (quiet : reads.still (reads.content w)) :
    reads.content w' = reads.content w := by
  have kept := reads.queryAll_content w selector root quiet
  rwa [asked.2] at kept

theorem RecordRead.content {fields : List Field} {root : Option H} {w w' : W}
    {calls : List (NotedCall P H)} {out : Except Failure Record}
    (read : RecordRead h page fields root w calls out w') (quiet : reads.still (reads.content w)) :
    reads.content w' = reads.content w := by
  obtain ⟨values, asked, -⟩ := read
  refine asked.content (fun {f w calls out w'} extracted quiet => ?_) quiet
  have kept := reads.extract_content w root f.selector f.attr quiet
  rwa [extracted.2] at kept

theorem Navigated.still {visit : Visit} {w w' : W} {calls : List (NotedCall P H)}
    {out : Except Failure PageResponse} (asked : Navigated h page visit w calls out w')
    (quiet : reads.still (reads.content w)) : reads.still (reads.content w') := by
  have kept := reads.navigate_still w visit quiet
  rwa [asked.2] at kept

/-- What a grouping finds is what the page shows under the roots. -/
theorem narrowed_of_queried {selector : String} {roots : List (Option H)} {w w' : W}
    {calls : List (NotedCall P H)} {found : List (List H)}
    (asked : InTurn (Queried h page selector) roots w calls (.ok found) w')
    (quiet : reads.still (reads.content w)) :
    found.flatten.map some = reads.narrowed (reads.content w) roots selector := by
  generalize answer : Except.ok found = out at asked
  induction asked generalizing found with
  | nil w => cases answer; rfl
  | @next root rest w w₁ w₂ calls more handles out first others ih =>
    cases out with
    | error f => cases answer
    | ok found' =>
      cases answer
      have shown : reads.found (reads.content w) selector root = .ok handles := by
        rw [← reads.queryAll_found, first.2]
      have kept := Queried.content reads first quiet
      rw [List.flatten_cons, List.map_append, ih (kept ▸ quiet) rfl, kept, Reads.narrowed,
        Reads.narrowed, List.flatMap_cons, shown]
      rfl
  | stop failed => cases answer

end Content

section Roots
variable {h : Host W P H C} {page : P} (reads : Reads h page K) (k : K) (before : List (Step C))

theorem rootsAfter_navigate (visit : Visit) :
    reads.rootsAfter k (before ++ [.navigate visit]) = [none] := by
  simp [Reads.rootsAfter, sinceVisit, groupings]

theorem rootsAfter_groupBy (selector : String) : reads.rootsAfter k (before ++ [.groupBy selector]) =
    reads.narrowed k (reads.rootsAfter k before) selector := by
  simp [Reads.rootsAfter, sinceVisit, groupings, List.foldl_append]

theorem rootsAfter_waitFor (selector : String) (timeoutMs : Value) :
    reads.rootsAfter k (before ++ [.waitFor selector timeoutMs]) = reads.rootsAfter k before := by
  simp [Reads.rootsAfter, sinceVisit, groupings]

theorem rootsAfter_select (fields : List Field) :
    reads.rootsAfter k (before ++ [.select fields]) = reads.rootsAfter k before := by
  simp [Reads.rootsAfter, sinceVisit, groupings]

end Roots
/-- Only selections add records. -/
theorem StepMeans.rows_eq_nil {h : Host W P H C} {d : Defaults} {waits : Waiting W P H} {page : P}
    {roots : List (Option H)} {s : Step C} {w w' : W} {calls : List (NotedCall P H)} {rows : List Record}
    (means : StepMeans h d waits page roots s w calls (.ok rows) w') (other : isSelection s = false) :
    rows = [] := by
  generalize answer : Except.ok rows = out at means
  cases means with
  | visited asked shown accepted => cases answer; rfl
  | unreachable asked => cases answer
  | blank asked nothing => cases answer
  | refused asked shown status bad => cases answer
  | @waited _ _ _ _ _ _ _ out timeout told asked => cases out <;> cases answer; rfl
  | untimed fault => cases answer
  | @grouped _ _ _ _ out asked => cases out <;> cases answer; rfl
  | selected asked => cases other

section Run
variable {g : Host (Recorded W P H) P H C} {h : Host W P H C} {page : P} (records : g.Records h)
  (reads : Reads h page K) (d : Defaults)

/-- What a state has become when the steps `steps` after `before` came to records or to a failure. -/
inductive Grown (reads : Reads h page K) (before steps : List (Step C)) (state : ReplayState P H)
    (w : W) : Except Failure (List Record) → Except Failure (ReplayState P H) → Prop where
  | failed (f) : Grown reads before steps state w (.error f) (.error f)
  | grown {rows next} (stays : next.page = page) (quiet : reads.still (reads.content w))
      (roots : next.scope.roots = reads.rootsAfter (reads.content w) (before ++ steps))
      (results : next.results = state.results ++ rows.map .record)
      (selects : next.selectsRun = state.selectsRun + steps.countP isSelection) :
      Grown reads before steps state w (.ok rows) (.ok next)

theorem Grown.next {before rest : List (Step C)} {s : Step C} {state mid : ReplayState P H}
    {w w' : W} {rows : List Record} {out : Except Failure (List Record)}
    {final : Except Failure (ReplayState P H)} (first : Grown reads before [s] state w (.ok rows) (.ok mid))
    (others : Grown reads (before ++ [s]) rest mid w' out final) :
    Grown reads before (s :: rest) state w' (out.map (rows ++ ·)) final := by
  cases first with
  | grown _ _ _ results selects =>
  cases others with
  | failed f => exact .failed f
  | grown stays quiet roots results' selects' =>
    refine .grown stays quiet ?_ ?_ ?_
    · rw [roots, List.append_assoc, List.singleton_append]
    · rw [results', results, List.map_append, List.append_assoc]
    · rw [selects', selects, Nat.add_assoc, ← List.countP_append, List.singleton_append]

include records

theorem does_plainStep (index : Nat) {before : List (Step C)} {s : Step C} (plain : isPlain s)
    {state : ReplayState P H} {w : W} (stays : state.page = page)
    (quiet : reads.still (reads.content w))
    (roots : state.scope.roots = reads.rootsAfter (reads.content w) before) :
    ∃ calls out w',
      StepMeans h d (Attended h d page) page (reads.rootsAfter (reads.content w) before) s w calls out w' ∧
      ∃ next, Does (runStep g d Handler.standard index s state) w calls next w' ∧
        Grown reads before [s] state w' out next := by
  subst stays
  rw [← roots]
  cases s with
  | navigate visit =>
    obtain ⟨calls, out, w', means, does⟩ := does_navigateStep records d state w visit
    refine ⟨calls, out, w', means, _, does_runStep records d state index rfl does, ?_⟩
    cases out with
    | error f => exact .failed f
    | ok rows =>
      obtain rfl := means.rows_eq_nil rfl
      have quiet' : reads.still (reads.content w') := by
        cases means with
        | visited asked shown accepted => exact Navigated.still reads asked quiet
      exact .grown rfl quiet' (rootsAfter_navigate reads _ before visit).symm (List.append_nil _).symm rfl
  | waitFor selector requested =>
    obtain ⟨calls, out, w', means, does⟩ := does_waitStep records d state w selector requested
    refine ⟨calls, out, w', means, _, does_runStep records d state index rfl does, ?_⟩
    have kept : reads.content w' = reads.content w := by
      cases means with
      | waited timeout told asked => exact asked.content (Attended.content reads) quiet
      | untimed fault => rfl
    cases out with
    | error f => exact .failed f
    | ok rows =>
      obtain rfl := means.rows_eq_nil rfl
      refine .grown rfl (kept ▸ quiet) ?_ (List.append_nil _).symm rfl
      rw [rootsAfter_waitFor, kept]
      exact roots
  | groupBy selector =>
    obtain ⟨calls, out, w', asked, does⟩ := does_groupStep records state w selector
    refine ⟨calls, _, w', .grouped asked, _, does_runStep records d state index rfl does, ?_⟩
    cases out with
    | error f => exact .failed f
    | ok found =>
      have kept := asked.content (Queried.content reads) quiet
      refine .grown rfl (kept ▸ quiet) ?_ (List.append_nil _).symm rfl
      rw [rootsAfter_groupBy, kept, ← roots]
      exact narrowed_of_queried reads asked quiet
  | select fields =>
    obtain ⟨calls, out, w', means, does⟩ := does_selectStep records d state w fields
    refine ⟨calls, out, w', means, _, does_runStep records d state index rfl does, ?_⟩
    have kept : reads.content w' = reads.content w := by
      cases means with
      | selected asked => exact asked.content (RecordRead.content reads) quiet
    cases out with
    | error f => exact .failed f
    | ok rows =>
      refine .grown rfl (kept ▸ quiet) ?_ rfl rfl
      rw [rootsAfter_select, kept]
      exact roots
  | eval callback => cases plain
  | bare => cases plain

theorem does_runSteps {rest : List (Step C)} (plain : ∀ s ∈ rest, isPlain s) (index : Nat)
    (before : List (Step C)) {state : ReplayState P H} {w : W} (stays : state.page = page)
    (quiet : reads.still (reads.content w))
    (roots : state.scope.roots = reads.rootsAfter (reads.content w) before) :
    ∃ calls out w', Meaning reads d (Attended h d page) before rest w calls out w' ∧
      ∃ final, Does (runSteps g d Handler.standard index rest state) w calls final w' ∧
        Grown reads before rest state w' out final := by
  induction rest generalizing index before state w with
  | nil =>
    refine ⟨[], _, w, .done before w, _, .pure state w, .grown stays quiet ?_ (List.append_nil _).symm rfl⟩
    rw [List.append_nil]
    exact roots
  | cons s rest ih =>
    obtain ⟨calls, out, w₁, means, next, does, grown⟩ :=
      does_plainStep records reads d index (plain s List.mem_cons_self) stays quiet roots
    cases grown with
    | failed f => exact ⟨calls, _, w₁, .stop means, _, does.bind_error, .failed f⟩
    | @grown rows mid stays' quiet' roots' results selects =>
      obtain ⟨more, out, w₂, others, final, later, grown'⟩ :=
        ih (fun s mem => plain s (List.mem_cons_of_mem _ mem)) (index + 1) _ stays' quiet' roots'
      exact ⟨calls ++ more, _, w₂, .next means others, final, does.bind later,
        Grown.next reads (.grown stays' quiet' roots' results selects) grown'⟩

end Run

theorem handOver_records (rows : List Record) : (rows.map Item.record).mapM handOver = .ok rows := by
  induction rows with
  | nil => rfl
  | cons r rest ih =>
    rw [List.map_cons, List.mapM_cons, ih]
    rfl

/-- A replay whose steps need no callback makes the calls of its steps up to the first that fails, and no
others. It gives that failure, or the records of all selections, each under the roots that the steps before
it lead to, or no results when nothing is selected. On a clock that keeps time, waits go on until they
succeed, fail or are over: no bound on retries shows. -/
theorem execute_means {h : Host W P H C} {page : P} (reads : Reads h page K) (d : Defaults)
    {steps : List (Step C)} (plain : ∀ s ∈ steps, isPlain s) (runId : String) {w : W}
    (quiet : reads.still (reads.content w)) :
    ∃ calls out w' log,
      (execute h.recorded d Handler.standard steps page runId).runOn ⟨w, [], []⟩ =
        (verdict steps out, ⟨w', log, calls⟩) ∧
      Only (Meaning reads d (Attended h d page) [] steps) w calls out w' ∧
      ∀ timed, Timed h page timed → timed w → h.now w' ≤ horizon →
        Only (Meaning reads d (Awaited h d page) [] steps) w calls out w' := by
  have records := h.recorded_records.bind [("run_id", .text runId)]
  obtain ⟨calls, out, w', means, final, does, grown⟩ := does_runSteps records reads d plain 0 []
    (show (ReplayState.initial page).page = page from rfl) quiet rfl
  have whole : Does (execute h.recorded d Handler.standard steps page runId) w calls
      (verdict steps out) w' := by
    refine (records.does_log _ _ _ w).silently ((records.does_time w).silently ?_)
    rw [← List.append_nil calls]
    cases grown with
    | failed f =>
      rw [List.append_nil]
      exact does.bind_error
    | @grown rows next stays quiet' roots results selects =>
      refine does.bind ?_
      have results : next.results = rows.map .record := results
      have count : next.selectsRun = steps.countP isSelection := by
        rw [selects]
        exact Nat.zero_add _
      cases any : steps.any isSelection with
      | true =>
        have some : (next.selectsRun == 0) = false := by
          obtain ⟨s, mem, selection⟩ := List.any_eq_true.mp any
          have pos := List.countP_pos_iff.mpr ⟨s, mem, selection⟩
          rw [count, beq_eq_false_iff_ne]
          omega
        simp only [verdict, any, some, Bool.false_eq_true, if_false, if_true]
        refine (records.does_time w').silently ((records.does_log _ _ _ w').silently ?_)
        rw [results, handOver_records]
        exact .ofExcept _ w'
      | false =>
        have none : (next.selectsRun == 0) = true := by
          rw [count, beq_iff_eq, List.countP_eq_zero]
          exact fun s mem selection => List.any_eq_false.mp any s mem selection
        simp only [verdict, any, none, Bool.false_eq_true, if_false, if_true]
        exact (records.does_log _ _ _ w').silently (.fail _ w')
  obtain ⟨log, run⟩ := whole.runOn_recorded
  refine ⟨calls, out, w', log, run, (Meaning.definite Attended.definite _ _).only means, ?_⟩
  intro timed keeps begun ends
  exact (Meaning.definite Awaited.definite _ _).only (keeps.meaning_of_attended means begun ends)

/-- A page with one item, not yet visited. -/
def listing : StaticWorld :=
  { site := [("http://shop/", { markup := "<li><b>Tea</b><a href=t>more</a>" })], start := 0, now := 0,
    pages := #[{ document := 0 }] }

/-- Reading it item by item. -/
def itemByItem : List (Step Callback) :=
  [.navigate ⟨"http://shop/", "GET", .null⟩, .waitFor "b" (.int 100), .groupBy "li",
    .select [⟨"name", "b", none⟩, ⟨"link", "a", some "href"⟩]]

/-- A listing on a static page, waited for and read item by item. -/
theorem execute_means_on_static_page :
    (∀ s ∈ itemByItem, isPlain s) ∧
    Timed StaticWorld.host (.page 0) (StaticWorld.Ticking .scripted) ∧
    StaticWorld.Ticking .scripted listing ∧
    ∃ calls out w' log,
      (execute StaticWorld.host.recorded {} Handler.standard itemByItem (.page 0) "1").runOn ⟨listing, [], []⟩ =
        (verdict itemByItem out, ⟨w', log, calls⟩) ∧
      StaticWorld.host.now w' ≤ horizon ∧ calls.length = 5 ∧
      Only (Meaning (StaticWorld.reading .scripted (.page 0)) {} (Awaited StaticWorld.host {} (.page 0)) []
        itemByItem) listing calls out w' := by
  have ticking : StaticWorld.Ticking .scripted listing :=
    ⟨le_refl 0, by decide +kernel, StaticWorld.scripted_delays (by decide)⟩
  obtain ⟨calls, out, w', log, run, -, timely⟩ := execute_means (h := StaticWorld.host)
    (StaticWorld.reading .scripted (.page 0)) {} (show ∀ s ∈ itemByItem, isPlain s by decide) "1"
    (w := listing) rfl
  have ended : StaticWorld.host.now ((execute StaticWorld.host.recorded {} Handler.standard itemByItem (.page 0)
      "1").runOn ⟨listing, [], []⟩).2.world ≤ horizon ∧
      ((execute StaticWorld.host.recorded {} Handler.standard itemByItem (.page 0)
        "1").runOn ⟨listing, [], []⟩).2.calls.length = 5 := by decide +kernel
  rw [run] at ended
  exact ⟨by decide, StaticWorld.timed_pages .scripted _, ticking, calls, out, w', log, run, ended.1, ended.2,
    timely _ (StaticWorld.timed_pages .scripted _) ticking ended.1⟩

end PageHarvest.Replay
