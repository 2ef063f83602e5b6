import PageHarvest.Proofs.Replay.Timekeeping
import PageHarvest.Proofs.Static.Motion

/-!
Static pages are only read by searches and waits. What they show changes by visits, and by elements
that are yet to arrive.
-/
namespace PageHarvest.StaticWorld
open Act (Moves)
open Precision (double)

/-- What the pages of a world show, and what is yet to come up on them. -/
structure Shown where
  trees : List Html.Node
  pages : Array StaticPage
  arrivals : List Arrival

def shown (w : StaticWorld) : Shown :=
  ⟨w.trees, w.pages, w.arrivals⟩

/-- Nothing changes unless something is yet to arrive. -/
def Still (w w' : StaticWorld) : Prop :=
  w.arrivals = [] → w'.shown = w.shown

instance : IsPreorder StaticWorld Still where
  refl _ _ := rfl
  trans a b c first second quiet := by
    have same := first quiet
    have none : b.arrivals = [] := (congrArg Shown.arrivals same).trans quiet
    exact (second none).trans same

/-- Nothing new is announced. -/
def Quiet (w w' : StaticWorld) : Prop :=
  w.arrivals = [] → w'.arrivals = []

instance : IsPreorder StaticWorld Quiet where
  refl _ quiet := quiet
  trans _ _ _ first second quiet := second (first quiet)

theorem pass_still (seconds : Rat) (w : StaticWorld) : Still w (pass seconds w) := by
  intro quiet
  simp [pass, arrive, quiet, shown]

theorem pass_quiet (seconds : Rat) (w : StaticWorld) : Quiet w (pass seconds w) :=
  fun quiet => (congrArg Shown.arrivals (pass_still seconds w quiet)).trans quiet

theorem display_quiet (r : PageRef) (url markup : String) : Moves Quiet (display r url markup) := by
  intro w quiet
  cases r with
  | nothing => exact quiet
  | page n => exact quiet

section Pages
variable (t : Backend) (r : PageRef)

theorem navigate_quiet (visit : Visit) : Moves Quiet (navigateVia t r visit) :=
  moves_navigate (fun w _ _ _ => pass_quiet _ w) (fun _ _ _ _ quiet => quiet) r (display_quiet r) visit

/-- A page of a static world as one that is only read, while nothing arrives. -/
def reading : Replay.Reads (hostVia t) r Shown where
  content := shown
  found k selector root := ((queryAll t.engine r selector root).runOn
    { site := [], start := 0, now := 0, trees := k.trees, pages := k.pages }).1
  still k := k.arrivals = []
  queryAll_found w selector root := by
    cases r with
    | nothing => rfl
    | page n =>
      show ((queryAll t.engine (.page n) selector root).runOn w).1 = _
      simp only [queryAll, rootOf, page, Act.runOn_bind, Act.runOn_get, shown]
      cases w.pages[n]? with
      | none => rfl
      | some p => cases t.engine selector <;> rfl
  queryAll_content w selector root := moves_queryAll (R := Still) t.engine r selector root w
  extract_content w root selector attr := moves_extract (R := Still) t.engine r root selector attr w
  waitFor_content w selector ms root := Moves.bind (R := Still)
    (moves_await (fun _ _ _ => pass_still _ _) t r selector ms root) (fun _ => .pure _) w
  sleep_content w span := pass_still span w
  navigate_still w visit := navigate_quiet t r visit w

end Pages

section Time
variable (t : Backend)

/-- The clock shows what it can show, and the site takes some time or none to answer. -/
structure Ticking (w : StaticWorld) : Prop where
  positive : 0 ≤ w.now
  shown : double.near w.now = w.now
  delays : ∀ q ms, (t.client w.site q).latencyMs = some ms → 0 ≤ ms

/-- Time goes on. -/
abbrev Ticks : StaticWorld → StaticWorld → Prop :=
  Replay.Onward (hostVia t) (Ticking t)

theorem ticks_of_same {w w' : StaticWorld} (now : w'.now = w.now) (site : w'.site = w.site) : Ticks t w w' :=
  fun ticking => ⟨⟨now ▸ ticking.positive, now ▸ ticking.shown, site ▸ ticking.delays⟩, now.ge⟩

theorem arrive_same (w : StaticWorld) : w.arrive.now = w.now ∧ w.arrive.site = w.site := by
  have same := arrive_relates (R := fun w w' => (w'.now, w'.site) = (w.now, w.site)) (fun _ _ => rfl)
    (fun done => by obtain ⟨trees, nextId, rfl⟩ := edits_of_append done; rfl) w
  exact Prod.mk.inj same

theorem now_pass (seconds : Rat) (w : StaticWorld) : (pass seconds w).now = double.near (w.now + seconds) :=
  (arrive_same _).1

theorem pass_ticks {seconds : Rat} (forward : 0 ≤ seconds) (w : StaticWorld) : Ticks t w (pass seconds w) := by
  intro ticking
  have on := Replay.le_near_of_le ticking.positive ticking.shown (le_add_of_nonneg_right forward)
  have site : (pass seconds w).site = w.site := (arrive_same _).2
  refine ⟨⟨?_, ?_, site ▸ ticking.delays⟩, ?_⟩
  · rw [now_pass]
    exact ticking.positive.trans on
  · rw [now_pass, Replay.near_near]
  · show w.now ≤ (pass seconds w).now
    rw [now_pass]
    exact on

theorem scripted_delays {site : Site} (forward : ∀ e ∈ site, ∀ ms ∈ e.2.latencyMs, 0 ≤ ms) (q : PageRequest)
    (ms : Rat) (late : (Backend.scripted.client site q).latencyMs = some ms) : 0 ≤ ms := by
  obtain ⟨e, mem, listed⟩ := exists_of_latency late
  exact forward e mem ms listed

theorem delay_ticks (w : StaticWorld) (q : PageRequest) (ms : Rat)
    (late : (t.client w.site q).latencyMs = some ms) : Ticks t w (pass (precision.near (ms / 1000)) w) :=
  fun ticking => pass_ticks t (Precision.near_nonneg (div_nonneg (ticking.delays q ms late) (by norm_num))) w ticking

theorem display_ticks (r : PageRef) (url markup : String) : Moves (Ticks t) (display r url markup) := by
  intro w
  cases r with
  | nothing => exact ticks_of_same t rfl rfl
  | page n => exact ticks_of_same t rfl rfl

/-- The clock of static pages keeps time. -/
theorem timed_pages (r : PageRef) : Replay.Timed (hostVia t) r (Ticking t) where
  precision := rfl
  positive := Ticking.positive
  shows := Ticking.shown
  navigate := moves_navigate (delay_ticks t) (fun _ _ _ _ => ticks_of_same t rfl rfl) r (display_ticks t r)
  waitFor selector ms root :=
    .bind (moves_await (fun _ w forward => pass_ticks t forward w) t r selector ms root) fun _ => .pure _
  queryAll := moves_queryAll t.engine r
  extract := moves_extract t.engine r
  sleep forward w := pass_ticks t forward w
  slept {span w} _ _ := (now_pass span w).ge

end Time
end PageHarvest.StaticWorld
