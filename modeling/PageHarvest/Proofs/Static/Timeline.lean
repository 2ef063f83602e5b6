import PageHarvest.Proofs.Static.Sameness

/-!
Waits on a page whose documents change with time, by a clock that rounds nothing and that only sleep
moves. When the page is looked at is told by the timeout and the interval alone.
-/
namespace PageHarvest.StaticWorld
open Watch (instants period Schedule)

/-- What the world of a page is at each time. -/
structure Timeline (r : PageRef) where
  world : Rat → StaticWorld
  now : ∀ t, (world t).now = t
  page : ∀ t, ∃ p, (world t).pageAt r = some p

namespace Timeline
variable {r : PageRef} (l : Timeline r)

/-- The clock that shows the time of the page, and by which any sleep can be had. -/
def clock : Clock StaticWorld where
  precision := .exact
  now w := w.now
  sleep seconds w := l.world (w.now + seconds)

theorem clock_paces (pollMs : Int) : l.clock.Paces pollMs :=
  fun _ _ => rfl

/-- The first element that is picked below a root at a time. -/
def first? (pick : Html.Place → List Html.Place) (root : Option Nat) (t : Rat) : Option Nat :=
  ((l.world t).pageAt r).bind fun p => (l.world t).first? pick (root.getD p.document)

section
variable (engine : Css.Engine) (selector : String) (root : Option Nat)

theorem glanced_eq (t : Rat) : glanced engine (l.world t) r selector root =
    (engine selector).map fun pick => l.first? pick root t := by
  obtain ⟨p, here⟩ := l.page t
  unfold glanced first?
  rw [page_runOn here, here]
  cases engine selector with
  | error f => rfl
  | ok pick => rfl

theorem follows : (watchVia engine l.clock r selector root).Follows l.world
    fun t => (engine selector).map fun pick => l.first? pick root t where
  exact := rfl
  now := l.now
  sleep d t := congrArg (fun now => l.world (now + d)) (l.now t)
  glance t := by
    rw [← l.glanced_eq]
    exact glance_runOn engine (l.world t) r selector root

/-- A wait as it goes on, with the instants at which it has looked. -/
def noted (start : Rat) (timeoutMs : Int) : Except Failure Nat × StaticWorld × List Rat :=
  ((watchVia engine l.clock r selector root).noting.await (l.world start).pollIntervalMs timeoutMs
    (Cause.waitExpired (Cause.waitMessage selector (toString timeoutMs)))).runOn (l.world start, [])

theorem awaitVia_noted (start : Rat) (timeoutMs : Int) :
    (awaitVia engine l.clock r selector timeoutMs root).runOn (l.world start) =
      ((l.noted engine selector root start timeoutMs).1, (l.noted engine selector root start timeoutMs).2.1) := by
  obtain ⟨p, here⟩ := l.page start
  obtain ⟨looks, run⟩ := (watchVia engine l.clock r selector root).await_noting
    (l.world start).pollIntervalMs timeoutMs
    (Cause.waitExpired (Cause.waitMessage selector (toString timeoutMs))) (l.world start) []
  rw [noted, run, awaitVia, Act.runOn_bind, page_runOn here]
  dsimp only
  rw [Act.runOn_bind, Act.runOn_get]

/-- A wait for a selector that can be read looks at its scheduled instants in turn, until one of them
shows a match, and fails at the last of them if none does. Any other selector fails at the first look. -/
theorem awaitVia_on_schedule (start : Rat) (timeoutMs : Int) :
    let noted := l.noted engine selector root start timeoutMs
    (awaitVia engine l.clock r selector timeoutMs root).runOn (l.world start) = (noted.1, noted.2.1) ∧
    ∃ schedule, Schedule start (period (l.world start).pollIntervalMs) (timeoutMs / 1000) schedule ∧
      (∀ pick, engine selector = .ok pick →
        (∀ before t after i, schedule = before ++ t :: after →
          (∀ b ∈ before, l.first? pick root b = none) → l.first? pick root t = some i →
          noted = (.ok i, l.world t, before ++ [t])) ∧
        ((∀ t ∈ schedule, l.first? pick root t = none) →
          noted = (.error (Cause.waitExpired (Cause.waitMessage selector (toString timeoutMs))),
            l.world (max start (start + timeoutMs / 1000)), schedule))) ∧
      (∀ f, engine selector = .error f → noted = (.error f, l.world start, [start])) := by
  have follows := l.follows engine selector root
  have paces := l.clock_paces (l.world start).pollIntervalMs
  refine ⟨l.awaitVia_noted engine selector root start timeoutMs, _,
    Watch.schedule_instants (Watch.period_pos _), fun pick read => ⟨?_, ?_⟩, ?_⟩
  · intro before t after i planned missed found
    refine follows.await_ends paces before after planned (fun b mem => ?_) ?_
    · rw [read]
      exact congrArg Except.ok (missed b mem)
    · rw [read]
      exact congrArg Except.ok found
  · intro missed
    refine follows.await_expires paces fun t mem => ?_
    rw [read]
    exact congrArg Except.ok (missed t mem)
  · intro f unread
    obtain ⟨after, planned⟩ := Watch.exists_instants_eq_cons (Watch.period_pos
      (l.world start).pollIntervalMs) start (timeoutMs / 1000 : Rat)
    refine follows.await_ends paces [] after planned (fun b mem => ?_) ?_
    · cases mem
    · rw [unread]
      rfl

end

/-- A page on which a paragraph comes up after 120 ms, and nothing else ever does. -/
def lateParagraph : Timeline (.page 0) where
  world t :=
    let opened := (openPage { site := [], start := 0, now := t } [] false).2
    ((display (.page 0) "http://a/" (if t < 3 / 25 then "" else "<p>1")).runOn opened).2
  now _ := rfl
  page _ := ⟨_, rfl⟩

/-- Every 50 ms for 200 ms. -/
theorem schedule_of_lateParagraph : Schedule 0 (period (lateParagraph.world 0).pollIntervalMs)
    ((200 : Int) / 1000) [0, 1 / 20, 1 / 10, 3 / 20, 1 / 5] := by
  have planned : Watch.instants 0 (period (lateParagraph.world 0).pollIntervalMs) ((200 : Int) / 1000) =
      [0, 1 / 20, 1 / 10, 3 / 20, 1 / 5] := by decide +kernel
  rw [← planned]
  exact Watch.schedule_instants (Watch.period_pos _)

/-- What comes up between two looks is found at the next one, and what never comes up is given up at the
deadline. -/
theorem lateParagraph_found_on_schedule : (∃ i,
    (awaitVia Css.engine lateParagraph.clock (.page 0) "p" 200 none).runOn (lateParagraph.world 0) =
      (.ok i, lateParagraph.world (3 / 20)) ∧
    (lateParagraph.noted Css.engine "p" none 0 200).2.2 = [0, 1 / 20, 1 / 10, 3 / 20]) ∧
    (awaitVia Css.engine lateParagraph.clock (.page 0) "b" 200 none).runOn (lateParagraph.world 0) =
      (.error (Cause.waitExpired (Cause.waitMessage "b" "200")), lateParagraph.world (1 / 5)) ∧
    (lateParagraph.noted Css.engine "b" none 0 200).2.2 = [0, 1 / 20, 1 / 10, 3 / 20, 1 / 5] := by
  have unique {schedule} (planned : Schedule 0 (period (lateParagraph.world 0).pollIntervalMs)
      ((200 : Int) / 1000) schedule) : schedule = [0, 1 / 20, 1 / 10, 3 / 20, 1 / 5] :=
    planned.unique schedule_of_lateParagraph
  have shown {selector : String} {pick} (read : Css.engine selector = .ok pick) (t : Rat) :
      some (lateParagraph.first? pick none t) =
        (glanced Css.engine (lateParagraph.world t) (.page 0) selector none).toOption := by
    rw [lateParagraph.glanced_eq, read]
    rfl
  constructor
  · obtain ⟨pick, read, -⟩ := @exists_ok_of_any _ _ (Css.engine "p") (fun _ => true) (by decide +kernel)
    obtain ⟨run, _, planned, reads, -⟩ := awaitVia_on_schedule lateParagraph Css.engine "p" none 0 200
    cases unique planned
    have missed : ∀ b ∈ [0, 1 / 20, 1 / 10], lateParagraph.first? pick none b = none := by
      intro b mem
      refine Option.some.inj ((shown read b).trans ?_)
      revert b
      decide +kernel
    obtain ⟨i, found⟩ : ∃ i, lateParagraph.first? pick none (3 / 20) = some i := by
      refine Option.isSome_iff_exists.mp (Option.some.inj ((congrArg (Option.map Option.isSome)
        (shown read (3 / 20))).trans ?_))
      decide +kernel
    have noted := (reads pick read).1 [0, 1 / 20, 1 / 10] (3 / 20) [1 / 5] i rfl missed found
    rw [noted] at run
    exact ⟨i, run, by rw [noted]; rfl⟩
  · obtain ⟨pick, read, -⟩ := @exists_ok_of_any _ _ (Css.engine "b") (fun _ => true) (by decide +kernel)
    obtain ⟨run, _, planned, reads, -⟩ := awaitVia_on_schedule lateParagraph Css.engine "b" none 0 200
    cases unique planned
    have noted := (reads pick read).2 fun t mem => by
      refine Option.some.inj ((shown read t).trans ?_)
      revert t
      decide +kernel
    have ends : max (0 : Rat) (0 + ((200 : Int) : Rat) / 1000) = 1 / 5 := by norm_num
    rw [noted, ends] at run
    exact ⟨run, by rw [noted]⟩

end Timeline

/-- A selector that cannot be read is not waited for. -/
theorem unreadable_selector_not_awaited : ∃ f w',
    (awaitVia Css.engine Timeline.lateParagraph.clock (.page 0) "p[" 200 none).runOn
      (Timeline.lateParagraph.world 0) = (.error f, w') ∧ f.cause.isTimeout = false := by
  obtain ⟨f, w', run, other⟩ := Act.exists_error
    (awaitVia Css.engine Timeline.lateParagraph.clock (.page 0) "p[" 200 none) (Timeline.lateParagraph.world 0)
    (fun f => f.cause.isTimeout == false) (by decide +kernel)
  exact ⟨f, w', run, eq_of_beq other⟩

end PageHarvest.StaticWorld
