import PageHarvest.Proofs.Fetch.Interception
import PageHarvest.Proofs.Static.Extraction
import PageHarvest.Proofs.Static.Motion

/-!
Links of a replay on static pages. Each is joined with the address at which the latest visit ended up,
whatever was asked for and whatever was shown before.
-/
namespace PageHarvest

/-- The address at which a request of a page ends up: its own if an interceptor answers, or else the one
that the site answers from. -/
def Backend.finalUrl (t : Backend) (site : Site) (p : StaticPage) (q : PageRequest) : String :=
  match if p.intercepting then (t.ask p.interceptors q).2 else .ok none with
  | .ok (some _) => q.url
  | _ => (t.client site q).url.getD q.url

namespace StaticWorld
open Act (Moves)
open Handler Replay
open Html (Place)

section Values

/-- The value of a field that reads a link, on a page at `url`. -/
inductive LinkValue (url : String) (start : Option Place) (pick : Place → List Place) (name : String) :
    Option String → Prop where
  | unmatched (nothing : (start.bind fun q => (pick q).head?) = none) :
      LinkValue url start pick name none
  | unwritten {q} (first : (start.bind fun q => (pick q).head?) = some q)
      (missing : q.node.attr? name = none) : LinkValue url start pick name none
  | empty {q v} (first : (start.bind fun q => (pick q).head?) = some q)
      (written : q.node.attr? name = some v) (blank : v.joined = "") : LinkValue url start pick name (some "")
  | joined {q v full} (first : (start.bind fun q => (pick q).head?) = some q)
      (written : q.node.attr? name = some v) (filled : v.joined ≠ "")
      (full_eq : Url.join url v.joined = .ok full) : LinkValue url start pick name (some full)

theorem linkValue_of_extracted {engine : Css.Engine} {url selector name : String} (away : url ≠ blankUrl)
    (link : name ∈ Url.attrNames) {start : Option Place} {value : Option String}
    (read : extracted engine url start selector (some name) = .ok value) :
    ∃ pick, engine selector = .ok pick ∧ LinkValue url start pick name value := by
  obtain ⟨pick, valid, read⟩ := bind_ok_iff.mp read
  refine ⟨pick, valid, ?_⟩
  cases first : start.bind fun q => (pick q).head? with
  | none =>
    rw [first] at read
    cases read
    exact .unmatched first
  | some q =>
    rw [first] at read
    dsimp only at read
    cases written : q.node.attr? name with
    | none =>
      rw [written] at read
      cases read
      exact .unwritten first written
    | some v =>
      rw [written] at read
      obtain ⟨text, resolved, same⟩ := bind_ok_iff.mp read
      cases same
      by_cases blank : v.joined = ""
      · have kept : attrValue url name v = .ok "" := by simp [attrValue, blank]
        cases kept.symm.trans resolved
        exact .empty first written blank
      · have joins : attrValue url name v = Url.join url v.joined := by
          simp [attrValue, link, blank, away]
        exact .joined first written blank (joins.symm.trans resolved)

/-- Links of a record as a page at `url` gives them below a place. Of fields with one name the last one
fills it. -/
def LinksAt (engine : Css.Engine) (url : String) (start : Option Place) (fields : List Field)
    (record : Record) : Prop :=
  ∀ before f after name, fields = before ++ f :: after → (∀ f' ∈ after, f'.name ≠ f.name) →
    f.attr = some name → name ∈ Url.attrNames →
    ∃ pick value, engine f.selector = .ok pick ∧ record.get? f.name = some (Value.ofText? value) ∧
      LinkValue url start pick name value

theorem linksAt_of_recordAt {engine : Css.Engine} {url : String} (away : url ≠ blankUrl)
    {start : Option Place} {fields : List Field} {record : Record}
    (made : recordAt engine url start fields = .ok record) : LinksAt engine url start fields record := by
  rintro before f after name rfl last reads link
  obtain ⟨values, read, rfl⟩ := map_ok_iff.mp made
  rw [List.mapM_append, List.mapM_cons] at read
  obtain ⟨front, first, read⟩ := bind_ok_iff.mp read
  obtain ⟨rest, others, read⟩ := bind_ok_iff.mp read
  obtain ⟨value, here, others⟩ := bind_ok_iff.mp others
  obtain ⟨back, -, same⟩ := bind_ok_iff.mp others
  cases same
  cases read
  rw [reads] at here
  obtain ⟨pick, valid, value_is⟩ := linkValue_of_extracted away link here
  refine ⟨pick, value, valid, ?_, value_is⟩
  rw [List.zip_append (mapM_ok_iff.mp first).length_eq, List.zip_cons_cons, List.map_append, List.map_cons]
  refine Table.get?_update_last _ _ _ fun e mem => ?_
  obtain ⟨⟨f', v⟩, inside, rfl⟩ := List.mem_map.mp mem
  exact last f' (List.of_mem_zip inside).1

end Values

section Visits
variable {t : Backend} {r : PageRef} {w w' : StaticWorld}

theorem page_ok {p : StaticPage} (run : (page r).runOn w = (.ok p, w')) :
    w.pageAt r = some p ∧ w' = w := by
  cases there : w.pageAt r with
  | some p' =>
    rw [page_runOn there] at run
    cases run
    exact ⟨rfl, rfl⟩
  | none =>
    cases r with
    | nothing => cases run
    | page n =>
      unfold pageAt at there
      simp only [page, Act.runOn_bind, Act.runOn_get, there] at run
      cases run

/-- The pages of a world stay what they are. -/
def SamePages (w w' : StaticWorld) : Prop :=
  w'.pages = w.pages

instance : IsPreorder StaticWorld SamePages where
  refl _ := rfl
  trans _ _ _ first second := Eq.trans second first

theorem SamePages.pageAt (same : SamePages w w') (r : PageRef) : w'.pageAt r = w.pageAt r :=
  pageAt_congr same r

theorem samePages_pass (seconds : Rat) (w : StaticWorld) : SamePages w (pass seconds w) := by
  refine pass_relates (fun _ _ _ => rfl) (fun done => ?_) seconds w
  obtain ⟨trees, nextId, rfl⟩ := edits_of_append done
  rfl

theorem send_ok {q : PageRequest} {answer : SitePage} (run : (send t q).runOn w = (.ok answer, w')) :
    answer = t.client w.site q := by
  rw [send_eq_receive] at run
  obtain ⟨_, w₁, noted, run⟩ := Act.runOn_bind_ok run
  cases noted
  obtain ⟨_, w₂, got, run⟩ := Act.runOn_bind_ok run
  cases got
  dsimp only at run
  -- time passes or not, and the answer is given as it is or fails
  cases failure : (t.client w.site q).failure with
  | some f =>
    rw [failure] at run
    split at run
    · obtain ⟨_, w₃, -, run⟩ := Act.runOn_bind_ok run
      cases run
    · cases run
  | none =>
    rw [failure] at run
    split at run
    · obtain ⟨_, w₃, -, run⟩ := Act.runOn_bind_ok run
      cases run
      rfl
    · cases run
      rfl

theorem fetch_ok {p : StaticPage} {q : PageRequest} {status : Int} {url markup : String}
    (run : (fetch t p q).runOn w = (.ok (status, url, markup), w')) :
    url = t.finalUrl w.site p q ∧ SamePages w w' := by
  have still := moves_fetch (R := SamePages) (t := t) (fun w _ _ _ => samePages_pass _ w) (fun _ _ _ _ => rfl) p q w
  rw [run] at still
  refine ⟨?_, still⟩
  have sent {v : StaticWorld} (site : v.site = w.site)
      (run : (send t q >>= fun a => pure (a.status, a.url.getD q.url, a.markup)).runOn v =
        (.ok (status, url, markup), w')) : url = (t.client w.site q).url.getD q.url := by
    obtain ⟨answer, _, done, run⟩ := Act.runOn_bind_ok run
    cases run
    rw [send_ok done, site]
  unfold fetch at run
  unfold Backend.finalUrl
  dsimp only at run
  split at run
  · rename_i intercepting
    obtain ⟨made, v, asked, run⟩ := Act.runOn_bind_ok run
    obtain ⟨_, w₁, noted, asked⟩ := Act.runOn_bind_ok asked
    cases noted
    injection asked with answer world
    rw [if_pos intercepting, answer]
    cases made with
    | some m =>
      cases run
      rfl
    | none =>
      subst world
      exact sent (by rfl) run
  · rename_i direct
    rw [if_neg direct]
    exact sent rfl run

/-- A visit that succeeds leaves the page at the address that it answers. -/
theorem navigateVia_ok {visit : Visit} {response : PageResponse}
    (run : (navigateVia t r visit).runOn w = (.ok response, w')) : ∃ p p', w.pageAt r = some p ∧
      w'.pageAt r = some p' ∧ p'.url = response.url ∧
      (response.url ≠ blankUrl → response.url = t.finalUrl w.site p (visit.request [])) := by
  unfold navigateVia at run
  obtain ⟨p, v, asked, visited⟩ := Act.runOn_bind_ok run
  obtain ⟨here, same⟩ := page_ok asked
  rw [same] at visited
  clear run
  dsimp only at visited
  split at visited
  · obtain ⟨trees, nextId, pages, shown, there, -⟩ := display_runOn here blankUrl ""
    rw [Act.runOn_bind, shown] at visited
    cases visited
    exact ⟨p, _, here, there, rfl, fun away => absurd rfl away⟩
  · obtain ⟨⟨status, url, markup⟩, w₁, fetched, visited⟩ := Act.runOn_bind_ok visited
    obtain ⟨ends, same⟩ := fetch_ok fetched
    obtain ⟨trees, nextId, pages, shown, there, -⟩ := display_runOn ((same.pageAt r).trans here) url markup
    obtain ⟨log, noted⟩ := reportVisit_runOn (visit.request []) status { w₁ with trees, nextId, pages }
    dsimp only at visited
    rw [Act.runOn_bind, shown] at visited
    unfold Visit.request at noted
    dsimp only at visited
    rw [Act.runOn_bind, noted] at visited
    cases visited
    exact ⟨p, _, here, SamePages.pageAt (rfl : SamePages { w₁ with trees, nextId, pages } _) r ▸ there, rfl,
      fun _ => ends⟩

end Visits

/-- A replay of steps from `start`, with the address at which the latest of their visits ended up. -/
inductive Toured {C : Type} (t : Backend) (g : Host StaticWorld PageRef Nat C) (d : Defaults) (r : PageRef)
    (start : StaticWorld) : List (Step C) → Option String → ReplayState PageRef Nat → StaticWorld → Prop where
  | start : Toured t g d r start [] none (.initial r) start
  | visited {steps url state next w w' visit p}
      (before : Toured t g d r start steps url state w) (here : w.pageAt r = some p)
      (run : (runStep g d Handler.standard steps.length (.navigate visit) state).runOn w = (.ok next, w')) :
      Toured t g d r start (steps ++ [.navigate visit]) (some (t.finalUrl w.site p (visit.request []))) next w'
  | went {steps url state next w w' s}
      (before : Toured t g d r start steps url state w) (stays : ∀ visit, s ≠ .navigate visit)
      (run : (runStep g d Handler.standard steps.length s state).runOn w = (.ok next, w')) :
      Toured t g d r start (steps ++ [s]) url next w'

/-- A replay on one page, which shows what the latest visit has led to. -/
structure Lands (r : PageRef) (url : Option String) (state : ReplayState PageRef Nat) (w : StaticWorld) :
    Prop where
  page : state.page = r
  shows : ∃ p, w.pageAt r = some p ∧ ∀ u, url = some u → p.url = u ∧ u ≠ blankUrl

/-- Record `k` of a replay of steps: one that a selection has read below one of its roots. -/
inductive Row {C : Type} (t : Backend) (g : Host StaticWorld PageRef Nat C) (d : Defaults) (r : PageRef)
    (start : StaticWorld) (steps : List (Step C)) : Nat → Item → Prop where
  | read {before fields after url state w i root p record} (split : steps = before ++ .select fields :: after)
      (toured : Toured t g d r start before url state w) (below : state.scope.roots[i]? = some root)
      (here : w.pageAt r = some p)
      (made : recordAt t.engine p.url (w.place? (root.getD p.document)) fields = .ok record) :
      Row t g d r start steps (state.results.length + i) (.record record)

theorem Row.append {C : Type} {t : Backend} {g : Host StaticWorld PageRef Nat C} {d : Defaults} {r : PageRef}
    {start : StaticWorld} {steps : List (Step C)} {k : Nat} {item : Item}
    (row : Row t g d r start steps k item) (more : List (Step C)) :
    Row t g d r start (steps ++ more) k item := by
  cases row with
  | @read before fields after url state w i root p record split toured below here made =>
    have longer : steps ++ more = before ++ .select fields :: (after ++ more) := by
      rw [split, List.append_assoc, List.cons_append]
    exact .read longer toured below here made

section Runs
variable {C : Type} {t : Backend} {g : Host StaticWorld PageRef Nat C} (serves : Serves t g)
include serves

theorem reads_samePages : ReadMoves SamePages g :=
  serves.reads samePages_pass fun _ _ => rfl

variable {d : Defaults} {r : PageRef} {w w' : StaticWorld} {state next : ReplayState PageRef Nat} {index : Nat}

/-- After a visit the page is at the address at which its request ended up. -/
theorem navigateStep_ok {visit : Visit} (run : (navigateStep g visit state).runOn w = (.ok next, w')) :
    next.page = state.page ∧ ∃ p p', w.pageAt state.page = some p ∧ w'.pageAt state.page = some p' ∧
      p'.url = t.finalUrl w.site p (visit.request []) ∧ p'.url ≠ blankUrl := by
  obtain ⟨response, w₁, visited, run⟩ := Act.runOn_bind_ok run
  rw [serves.navigate] at visited
  obtain ⟨p, p', here, there, shown, ends⟩ := navigateVia_ok visited
  obtain ⟨_, w₂, logged, run⟩ := Act.runOn_bind_ok run
  have kept : SamePages w₁ w₂ := by
    cases logged
    exact (reads_samePages serves).emit _ w₁
  rw [serves.blank] at run
  split at run
  · cases run
  · rename_i sound
    cases run
    have away : response.url ≠ blankUrl := by
      intro blank
      simp [responseFault?, blank] at sound
    exact ⟨rfl, p, p', here, (kept.pageAt state.page).trans there, shown.trans (ends away), shown ▸ away⟩

theorem lands_of_visit {visit : Visit} (page : state.page = r)
    (run : (runStep g d Handler.standard index (.navigate visit) state).runOn w = (.ok next, w')) :
    ∃ p, w.pageAt r = some p ∧ Lands r (some (t.finalUrl w.site p (visit.request []))) next w' := by
  rcases done : (navigateStep g visit state).runOn (g.emit (startEvent index (.navigate visit)) w) with
    ⟨out, w₁⟩
  rw [runStep_runOn rfl done] at run
  obtain ⟨rfl, rfl⟩ := Prod.mk.inj run
  obtain ⟨log, emitted⟩ := serves.emit (startEvent index (.navigate visit)) w
  rw [emitted] at done
  obtain ⟨stays, p, p', here, there, ends, away⟩ := navigateStep_ok serves done
  have same : SamePages w { w with log } := rfl
  rw [page, same.pageAt] at here
  refine ⟨p, here, stays.trans page, p', ?_, fun u given => ?_⟩
  · rw [((reads_samePages serves).emit _ w₁).pageAt, ← page]
    exact there
  · cases given
    exact ⟨ends, ends ▸ away⟩

/-- Other steps stay on the page and at its address. -/
theorem Lands.step {s : Step C} {url : Option String} (lands : Lands r url state w)
    (stays : ∀ visit, s ≠ .navigate visit) (free : ∀ callback, s ≠ .eval callback)
    (run : (runStep g d Handler.standard index s state).runOn w = (.ok next, w')) : Lands r url next w' := by
  have kept := (reads_samePages serves).runStep d index stays free state w
  rw [run] at kept
  have page : next.page = state.page := by
    obtain ⟨e, makes⟩ := runStep_ok run
    cases makes with
    | called callback page items => exact absurd rfl (free callback)
    | _ => rfl
  obtain ⟨p, here, shown⟩ := lands.shows
  exact ⟨page.trans lands.page, p, (kept.pageAt r).trans here, shown⟩

variable {start : StaticWorld} (there : ∃ p, start.pageAt r = some p)
include there

theorem Toured.lands {steps : List (Step C)} {url : Option String}
    (toured : Toured t g d r start steps url state w) (free : ∀ callback, .eval callback ∉ steps) :
    Lands r url state w := by
  induction toured with
  | start =>
    obtain ⟨p, here⟩ := there
    exact ⟨rfl, p, here, nofun⟩
  | visited before here run ih =>
    have lands := ih fun callback mem => free callback (List.mem_append_left _ mem)
    obtain ⟨p, here', landed⟩ := lands_of_visit serves lands.page run
    cases here.symm.trans here'
    exact landed
  | went before stays run ih =>
    have lands := ih fun callback mem => free callback (List.mem_append_left _ mem)
    exact lands.step serves stays (fun callback same => free callback (by simp [same])) run

omit there in
/-- A selection adds what its fields come to below each of its roots. -/
theorem select_ok {fields : List Field} {p : StaticPage} (here : w.pageAt state.page = some p)
    (run : (runStep g d Handler.standard index (.select fields) state).runOn w = (.ok next, w')) :
    ∃ records, next = state.withRecords records ∧ state.scope.roots.mapM (fun root =>
      recordAt t.engine p.url (w.place? (root.getD p.document)) fields) = .ok records := by
  obtain ⟨log, emitted⟩ := serves.emit (startEvent index (.select fields)) w
  have same : SamePages w { w with log } := rfl
  have shown : pageAt { w with log } state.page = some p := (same.pageAt state.page).trans here
  obtain ⟨v, done⟩ := selectStep_runOn serves shown fields
  rw [← emitted] at done
  rw [runStep_runOn rfl done] at run
  injection run with answer
  obtain ⟨records, made, rfl⟩ := map_ok_iff.mp answer
  rw [emitted] at made
  exact ⟨records, rfl, made⟩

omit serves there in
theorem results_kept {s : Step C} (other : ∀ fields, s ≠ .select fields)
    (free : ∀ callback, s ≠ .eval callback)
    (run : (runStep g d Handler.standard index s state).runOn w = (.ok next, w')) :
    next.results = state.results := by
  obtain ⟨e, makes⟩ := runStep_ok run
  cases makes with
  | selected read => exact absurd rfl (other _)
  | called callback page items => exact absurd rfl (free callback)
  | _ => rfl

/-- All results of a replay are rows. -/
theorem Toured.row {steps : List (Step C)} {url : Option String}
    (toured : Toured t g d r start steps url state w) (free : ∀ callback, .eval callback ∉ steps) {k : Nat}
    {item : Item} (given : state.results[k]? = some item) : Row t g d r start steps k item := by
  induction toured generalizing k item with
  | start => cases given
  | visited before here run ih =>
    rw [results_kept (fun _ => by simp) (fun _ => by simp) run] at given
    exact (ih (fun callback mem => free callback (List.mem_append_left _ mem)) given).append _
  | @went steps url state next w w' s before stays run ih =>
    have before_free : ∀ callback, .eval callback ∉ steps :=
      fun callback mem => free callback (List.mem_append_left _ mem)
    by_cases selects : ∃ fields, s = .select fields
    · obtain ⟨fields, rfl⟩ := selects
      have lands := before.lands serves there before_free
      obtain ⟨p, here, -⟩ := lands.shows
      obtain ⟨records, rfl, made⟩ := select_ok serves (lands.page.symm ▸ here) run
      -- a result that was not there before is the record of the root at its place among the new ones
      simp only [ReplayState.withRecords, List.getElem?_append] at given
      split at given
      · exact (ih before_free given).append _
      · rename_i beyond
        obtain ⟨i, rfl⟩ := Nat.exists_eq_add_of_le (Nat.le_of_not_lt beyond)
        rw [Nat.add_sub_cancel_left, List.getElem?_map] at given
        obtain ⟨record, new, rfl⟩ := Option.map_eq_some_iff.mp given
        obtain ⟨root, below, read⟩ := getElem?_of_mapM made new
        exact .read rfl before below here read
    · have calls_nothing : ∀ callback, s ≠ .eval callback := fun callback same => free callback (by simp [same])
      rw [results_kept (not_exists.mp selects) calls_nothing run] at given
      exact (ih before_free given).append _

/-- The states of a replay, from one that has been reached on. -/
theorem toured_of_runSteps {steps rest : List (Step C)} {url : Option String}
    {final : ReplayState PageRef Nat} (before : Toured t g d r start steps url state w)
    (free : ∀ callback, .eval callback ∉ steps ++ rest)
    (run : (runSteps g d Handler.standard steps.length rest state).runOn w = (.ok final, w')) :
    ∃ url', Toured t g d r start (steps ++ rest) url' final w' := by
  induction rest generalizing steps url state w with
  | nil =>
    cases run
    rw [List.append_nil]
    exact ⟨url, before⟩
  | cons s rest ih =>
    obtain ⟨next, w₁, first, run⟩ := Act.runOn_bind_ok run
    have free' : ∀ callback, .eval callback ∉ (steps ++ [s]) ++ rest := by simpa using free
    have lands := before.lands serves there fun callback mem => free callback (List.mem_append_left _ mem)
    obtain ⟨url₁, reached⟩ : ∃ url₁, Toured t g d r start (steps ++ [s]) url₁ next w₁ := by
      by_cases visits : ∃ visit, s = .navigate visit
      · obtain ⟨visit, rfl⟩ := visits
        obtain ⟨p, here, -⟩ := lands_of_visit serves lands.page first
        exact ⟨_, before.visited here first⟩
      · exact ⟨url, before.went (not_exists.mp visits) first⟩
    have length : (steps ++ [s]).length = steps.length + 1 := List.length_append
    obtain ⟨url', toured⟩ := ih reached free' (length ▸ run)
    rw [List.append_assoc] at toured
    exact ⟨url', toured⟩

omit serves there in
theorem Toured.visited_of_head {steps : List (Step C)} {url : Option String}
    (toured : Toured t g d r start steps url state w)
    (begins : ∃ visit, steps.head? = some (.navigate visit)) : ∃ u, url = some u := by
  induction toured with
  | start =>
    obtain ⟨_, never⟩ := begins
    cases never
  | visited => exact ⟨_, rfl⟩
  | @went steps _ _ _ _ _ s _ stays _ ih =>
    obtain ⟨visit, first⟩ := begins
    cases steps with
    | nil => exact absurd (Option.some.inj first) (stays visit)
    | cons s' rest => exact ih ⟨visit, first⟩

end Runs

section Queries
variable {C : Type} {t : Backend} {g : Host StaticWorld PageRef Nat C} {d : Defaults} {r : PageRef}
  {w w' : StaticWorld}

/-- Every record of a replay was read below a root of the scope of one of its selections, and its links are
resolved at the address where the latest visit before that selection ended up. -/
theorem links_resolve_at_latest_visit (serves : Serves t g) (q : Query C)
    (free : ∀ callback, .eval callback ∉ q.steps) {runId : String} {records : List Record}
    (run : (execute g d Handler.standard q.steps r runId).runOn w = (.ok records, w')) {k : Nat}
    {record : Record} (given : records[k]? = some record) :
    ∃ before fields after url state v i root p, q.steps = before ++ .select fields :: after ∧
      Toured t (hostOfRun g runId) d r ((hostOfRun g runId).emit (runStartEvent q.steps) w) before (some url)
        state v ∧
      k = state.results.length + i ∧ state.scope.roots[i]? = some root ∧ v.pageAt r = some p ∧
      p.url = url ∧ url ≠ blankUrl ∧ LinksAt t.engine url (v.place? (root.getD p.document)) fields record := by
  have serves : Serves t (hostOfRun g runId) := serves.bind _
  obtain ⟨final, x, steps_run, handed⟩ := execute_ok run
  obtain ⟨item, result, same⟩ := getElem?_of_mapM handed given
  -- the first step is a visit, so that the page is there
  obtain ⟨p₀, here₀⟩ : ∃ p, pageAt ((hostOfRun g runId).emit (runStartEvent q.steps) w) r = some p := by
    obtain ⟨_, _, first, -⟩ := Act.runOn_bind_ok steps_run
    obtain ⟨p, here, -⟩ := lands_of_visit serves rfl first
    exact ⟨p, here⟩
  obtain ⟨_, toured⟩ := toured_of_runSteps serves ⟨p₀, here₀⟩ .start free steps_run
  rw [List.nil_append] at toured
  cases toured.row serves ⟨p₀, here₀⟩ free result with
  | @read before fields after url state v i root p record' split before_toured below here made =>
    cases same
    have split : q.steps = before ++ .select fields :: after := split
    have before_free : ∀ callback, .eval callback ∉ before := by
      intro callback mem
      refine free callback ?_
      rw [split]
      exact List.mem_append_left _ mem
    have begins : ∃ visit, before.head? = some (.navigate visit) := by
      have first := congrArg List.head? split
      cases before with
      | nil => cases first
      | cons s rest => exact ⟨q.start, first.symm⟩
    obtain ⟨url, rfl⟩ := before_toured.visited_of_head begins
    have lands := before_toured.lands serves ⟨p₀, here₀⟩ before_free
    obtain ⟨p', here', shows⟩ := lands.shows
    cases here.symm.trans here'
    obtain ⟨shown, away⟩ := shows url rfl
    rw [shown] at made
    exact ⟨before, fields, after, url, state, v, i, root, p, split, before_toured, rfl, below, here, shown,
      away, linksAt_of_recordAt away made⟩

/-- A listing that has moved below another address. -/
def movedList : Site :=
  [("http://shop/", { markup := "<a href=list>" }),
   ("http://shop/list",
    { url := some "http://shop/new/list.html", markup := "<li><a href=tea>T</a><li><a href>M</a>" })]

def atMovedList : StaticWorld :=
  (openPage { site := movedList, start := 0, now := 0 } [] false).2

def toField : Field :=
  ⟨"to", "a", some "href"⟩

/-- Reads the link to the listing, and the links of its entries. -/
def readMovedList : Query Callback where
  start := ⟨"http://shop/", "GET", .null⟩
  later := [.select [toField], .navigate ⟨"http://shop/list", "GET", .null⟩, .groupBy "li", .select [toField]]

/-- The text under a name of a record, if there is one. -/
def textUnder (name : String) (record : Record) : Option String :=
  (record.get? name).bind Value.text?

theorem links_resolve_at_moved_list : ∃ records w' record,
    (execute host {} Handler.standard readMovedList.steps (.page 0) "1").runOn atMovedList = (.ok records, w') ∧
    records[1]? = some record ∧ textUnder "to" record = some "http://shop/new/tea" ∧
    ∃ before fields after url state v i root p, readMovedList.steps = before ++ .select fields :: after ∧
      Toured .scripted (hostOfRun host "1") {} (.page 0)
        ((hostOfRun host "1").emit (runStartEvent readMovedList.steps) atMovedList) before (some url) state v ∧
      1 = state.results.length + i ∧ state.scope.roots[i]? = some root ∧ v.pageAt (.page 0) = some p ∧
      p.url = url ∧ url ≠ blankUrl ∧ LinksAt Css.engine url (v.place? (root.getD p.document)) fields record := by
  have free (callback : Callback) : .eval callback ∉ readMovedList.steps := by
    simp [readMovedList, Query.steps]
  obtain ⟨records, w', run, shown⟩ := Act.exists_ok
    (execute host {} Handler.standard readMovedList.steps (.page 0) "1") atMovedList
    (fun records _ => records[1]?.bind (textUnder "to") == some "http://shop/new/tea") (by decide +kernel)
  obtain ⟨record, given, text⟩ := Option.bind_eq_some_iff.mp (beq_iff_eq.mp shown)
  exact ⟨records, w', record, run, given, text,
    links_resolve_at_latest_visit (hostVia_serves .scripted) readMovedList free run given⟩

end Queries
end StaticWorld
end PageHarvest
