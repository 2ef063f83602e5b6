import PageHarvest.Proofs.Data.Table
import PageHarvest.Proofs.Replay.Recording

/-!
What replaying steps without callbacks means, said without handlers and without a state that is
carried along. Steps are done in turn up to the first that fails. The roots of a step follow from the
steps before it and from what the page shows; calls and worlds are those of the page itself.
-/
namespace PageHarvest.Replay
open Handler (Wait callTimeout)
variable {W P H C K : Type}

/-- Asking for several things in turn, up to the first that fails. -/
inductive InTurn {ι κ α : Type} (ask : ι → W → List κ → Except Failure α → W → Prop) :
    List ι → W → List κ → Except Failure (List α) → W → Prop where
  | nil (w) : InTurn ask [] w [] (.ok []) w
  | next {i rest w w₁ w₂ calls more a out} (first : ask i w calls (.ok a) w₁)
      (others : InTurn ask rest w₁ more out w₂) :
      InTurn ask (i :: rest) w (calls ++ more) (out.map (a :: ·)) w₂
  | stop {i rest w w₁ calls f} (failed : ask i w calls (.error f) w₁) :
      InTurn ask (i :: rest) w calls (.error f) w₁

/-- Asking a page until it succeeds, fails otherwise than by timeout, or no time is left. After a timeout
there is a sleep of the interval, or of what is left. -/
inductive Asked (h : Host W P H C) (wait : Wait) (page : P) (root : Option H) :
    W → List (NotedCall P H) → Except Failure Unit → W → Prop where
  | found {ms w w₁ calls} (told : callTimeout h.precision wait.deadline (h.now w) = .ok ms)
      (asked : WaitedFor h page wait.selector ms root w calls (.ok ⟨⟩) w₁) :
      Asked h wait page root w calls (.ok ⟨⟩) w₁
  | raised {ms w w₁ calls f} (told : callTimeout h.precision wait.deadline (h.now w) = .ok ms)
      (asked : WaitedFor h page wait.selector ms root w calls (.error f) w₁)
      (other : f.cause.isTimeout = false) :
      Asked h wait page root w calls (.error f) w₁
  | expired {ms w w₁ calls f} (told : callTimeout h.precision wait.deadline (h.now w) = .ok ms)
      (asked : WaitedFor h page wait.selector ms root w calls (.error f) w₁)
      (timeout : f.cause.isTimeout = true)
      (late : h.precision.near (wait.deadline - h.now w₁) ≤ 0) :
      Asked h wait page root w calls (.error wait.expired) w₁
  | restless {ms w w₁ calls f} (told : callTimeout h.precision wait.deadline (h.now w) = .ok ms)
      (asked : WaitedFor h page wait.selector ms root w calls (.error f) w₁)
      (timeout : f.cause.isTimeout = true)
      (early : 0 < h.precision.near (wait.deadline - h.now w₁))
      (refused : h.refuses (shorter wait.poll (h.precision.near (wait.deadline - h.now w₁))) = true) :
      Asked h wait page root w calls (.error Clock.tooLong) w₁
  | again {ms w w₁ w₂ calls more f out}
      (told : callTimeout h.precision wait.deadline (h.now w) = .ok ms)
      (asked : WaitedFor h page wait.selector ms root w calls (.error f) w₁)
      (timeout : f.cause.isTimeout = true)
      (early : 0 < h.precision.near (wait.deadline - h.now w₁))
      (taken : h.refuses (shorter wait.poll (h.precision.near (wait.deadline - h.now w₁))) = false)
      (later : Asked h wait page root
        (h.sleep (shorter wait.poll (h.precision.near (wait.deadline - h.now w₁))) w₁) more out w₂) :
      Asked h wait page root w (calls ++ more) out w₂
  /-- The clock cannot tell the remaining time. -/
  | unclocked {w f} (fault : callTimeout h.precision wait.deadline (h.now w) = .error f) :
      Asked h wait page root w [] (.error f) w

/-- What waiting under a root until a deadline comes to. -/
abbrev Waiting (W P H : Type) : Type :=
  (selector : String) → (timeoutMs : Int) → (deadline : Rat) → Option H →
    W → List (NotedCall P H) → Except Failure Unit → W → Prop

/-- Waiting with the interval of the settings, unless the clock cannot tell it. -/
inductive Awaited (h : Host W P H C) (d : Defaults) (page : P) (selector : String) (timeoutMs : Int)
    (deadline : Rat) (root : Option H) : W → List (NotedCall P H) → Except Failure Unit → W → Prop where
  | asked {poll w w' calls out} (interval : h.precision.seconds (max d.pollIntervalMs 1) = .ok poll)
      (asked : Asked h ⟨selector, timeoutMs, deadline, poll⟩ page root w calls out w') :
      Awaited h d page selector timeoutMs deadline root w calls out w'
  | unclocked {w f} (fault : h.precision.seconds (max d.pollIntervalMs 1) = .error f) :
      Awaited h d page selector timeoutMs deadline root w [] (.error f) w

/-- The record of values that were read for fields: every name once, at its first place, with the
value that was read for it last. -/
def recordOf (fields : List Field) (values : List (Option String)) : Record :=
  Table.settled ((fields.zip values).map fun (f, v) => (f.name, Value.ofText? v))

theorem update_eq_recordOf (fields : List Field) (values : List (Option String)) :
    Table.update [] ((fields.zip values).map fun (f, v) => (f.name, Value.ofText? v)) = recordOf fields values :=
  Table.ofEntries_eq_settled _

theorem readFields_eq_recordOf (h : Host W P H C) (page : P) (root : Option H) (fields : List Field) :
    Handler.readFields h page root [] fields =
      recordOf fields <$> fields.mapM fun f => h.extract page root f.selector f.attr := by
  rw [Handler.readFields_eq_mapM]
  simp only [update_eq_recordOf]

/-- A record has every name once, in the order of the fields. -/
theorem names_recordOf {fields : List Field} {values : List (Option String)}
    (length : values.length = fields.length) :
    (recordOf fields values).map (·.1) = (fields.map (·.name)).eraseDups := by
  have names : (fields.zip values).map (Field.name ∘ Prod.fst) = fields.map Field.name := by
    rw [← List.map_map, List.map_fst_zip (Nat.le_of_eq length.symm)]
  rw [recordOf, Table.keys_settled, List.map_map, ← names]
  rfl

/-- Reading the record of one root. -/
def RecordRead (h : Host W P H C) (page : P) (fields : List Field) (root : Option H) (w : W)
    (calls : List (NotedCall P H)) (out : Except Failure Record) (w' : W) : Prop :=
  ∃ values, InTurn (Extracted h page root) fields w calls values w' ∧
    out = values.map (recordOf fields)

/-- One step under given roots: its calls, and the records that it adds or the failure that it comes
to. All roots of a wait share one deadline. -/
inductive StepMeans (h : Host W P H C) (d : Defaults) (waits : Waiting W P H) (page : P)
    (roots : List (Option H)) :
    Step C → W → List (NotedCall P H) → Except Failure (List Record) → W → Prop where
  | visited {visit w w₁ calls response} (asked : Navigated h page visit w calls (.ok response) w₁)
      (shown : response.url ≠ h.blank page) (accepted : ∀ n, response.status = some n → n < 400) :
      StepMeans h d waits page roots (.navigate visit) w calls (.ok []) w₁
  | unreachable {visit w w₁ calls f} (asked : Navigated h page visit w calls (.error f) w₁) :
      StepMeans h d waits page roots (.navigate visit) w calls (.error f) w₁
  | blank {visit w w₁ calls response} (asked : Navigated h page visit w calls (.ok response) w₁)
      (nothing : response.url = h.blank page) :
      StepMeans h d waits page roots (.navigate visit) w calls
        (.error (Cause.blankPage (.text response.url))) w₁
  | refused {visit w w₁ calls response n} (asked : Navigated h page visit w calls (.ok response) w₁)
      (shown : response.url ≠ h.blank page) (status : response.status = some n) (bad : 400 ≤ n) :
      StepMeans h d waits page roots (.navigate visit) w calls
        (.error (Cause.httpStatus (.int n) (.text response.url))) w₁
  | waited {selector requested timeoutMs span w w₁ calls out}
      (timeout : Handler.effectiveTimeout d requested = .ok timeoutMs)
      (told : h.precision.seconds timeoutMs = .ok span)
      (asked : InTurn (waits selector timeoutMs (h.precision.near (h.now w + span))) roots w calls out w₁) :
      StepMeans h d waits page roots (.waitFor selector requested) w calls (out.map fun _ => []) w₁
  /-- The timeout is no whole number, or more than the clock can tell. -/
  | untimed {selector requested w f}
      (fault : (Handler.effectiveTimeout d requested >>= h.precision.seconds) = .error f) :
      StepMeans h d waits page roots (.waitFor selector requested) w [] (.error f) w
  | grouped {selector w w₁ calls out} (asked : InTurn (Queried h page selector) roots w calls out w₁) :
      StepMeans h d waits page roots (.groupBy selector) w calls (out.map fun _ => []) w₁
  | selected {fields w w₁ calls out}
      (asked : InTurn (RecordRead h page fields) roots w calls out w₁) :
      StepMeans h d waits page roots (.select fields) w calls out w₁

/-- Nothing but a visit changes what the page shows, and a search finds what is shown. -/
structure Reads (h : Host W P H C) (page : P) (K : Type) where
  content : W → K
  found : K → (selector : String) → Option H → Except Failure (List H)
  /-- Contents that do not change by themselves as time passes. -/
  still : K → Prop
  queryAll_found : ∀ w selector root,
    ((h.queryAll page selector root).runOn w).1 = found (content w) selector root
  queryAll_content : ∀ w selector root, still (content w) →
    content ((h.queryAll page selector root).runOn w).2 = content w
  extract_content : ∀ w root selector attr, still (content w) →
    content ((h.extract page root selector attr).runOn w).2 = content w
  waitFor_content : ∀ w selector ms root, still (content w) →
    content ((h.waitFor page selector ms root).runOn w).2 = content w
  sleep_content : ∀ w span, still (content w) → content (h.sleep span w) = content w
  navigate_still : ∀ w visit, still (content w) →
    still (content ((h.navigate page visit).runOn w).2)

/-- The steps since the latest visit. -/
def sinceVisit (before : List (Step C)) : List (Step C) :=
  (before.reverse.takeWhile fun s => match s with
    | .navigate _ => false
    | _ => true).reverse

/-- The selectors of groupings, in order. -/
def groupings (steps : List (Step C)) : List String :=
  steps.filterMap fun s => match s with
    | .groupBy selector => some selector
    | _ => none

namespace Reads
variable {h : Host W P H C} {page : P}

/-- The matches under each root, one after another. -/
def narrowed (reads : Reads h page K) (k : K) (roots : List (Option H)) (selector : String) :
    List (Option H) :=
  roots.flatMap fun root => ((reads.found k selector root).toOption.getD []).map some

/-- The roots of a step: the whole document at the latest visit, narrowed by each grouping since. -/
def rootsAfter (reads : Reads h page K) (k : K) (before : List (Step C)) : List (Option H) :=
  (groupings (sinceVisit before)).foldl (reads.narrowed k) [none]

end Reads

/-- Doing steps in order after the steps `before`: the calls up to the first failure, and either that
failure or the records of all selections. -/
inductive Meaning {h : Host W P H C} {page : P} (reads : Reads h page K) (d : Defaults)
    (waits : Waiting W P H) :
    (before rest : List (Step C)) → W → List (NotedCall P H) → Except Failure (List Record) → W →
      Prop where
  | done (before w) : Meaning reads d waits before [] w [] (.ok []) w
  | next {before s rest w w₁ w₂ calls more rows out}
      (first : StepMeans h d waits page (reads.rootsAfter (reads.content w) before) s w calls (.ok rows) w₁)
      (others : Meaning reads d waits (before ++ [s]) rest w₁ more out w₂) :
      Meaning reads d waits before (s :: rest) w (calls ++ more) (out.map (rows ++ ·)) w₂
  | stop {before s rest w w₁ calls f}
      (failed : StepMeans h d waits page (reads.rootsAfter (reads.content w) before) s w calls (.error f) w₁) :
      Meaning reads d waits before (s :: rest) w calls (.error f) w₁

/-- The kinds of steps that need no callback. -/
def isPlain : Step C → Bool
  | .navigate _ | .waitFor _ _ | .groupBy _ | .select _ => true
  | .eval _ | .bare => false

def isSelection : Step C → Bool
  | .select _ => true
  | _ => false

theorem countP_isSelection_eq_zero (steps : List (Step C)) :
    (steps.countP isSelection == 0) = !steps.any isSelection := by
  cases any : steps.any isSelection with
  | true =>
    obtain ⟨s, mem, selection⟩ := List.any_eq_true.mp any
    have pos := List.countP_pos_iff.mpr ⟨s, mem, selection⟩
    exact beq_eq_false_iff_ne.mpr (Nat.ne_of_gt pos)
  | false =>
    refine beq_iff_eq.mpr (List.countP_eq_zero.mpr fun s mem selection => ?_)
    exact List.any_eq_false.mp any s mem selection

/-- The outcome of a replay whose steps came to `out`. -/
def verdict (steps : List (Step C)) (out : Except Failure (List Record)) :
    Except Failure (List Record) := do
  let rows ← out
  if steps.any isSelection then return rows else .error Cause.noResults

end PageHarvest.Replay
