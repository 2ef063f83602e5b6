import Mathlib.Data.Rat.Cast.Order
import Mathlib.Tactic.Linarith
import PageHarvest.Proofs.Replay.StepByStep

/-!
The deadline that all roots of a wait share. On an exact clock that only calls and sleeps move, and with
pages that keep to the timeouts they are given, a wait succeeds when every match is there in time and
fails when some match is later than the deadline by more than one millisecond for each root.
-/
namespace PageHarvest.Replay
open Handler
variable {W P H C : Type}

/-- A page that keeps to its timeouts on an exact clock, for one selector: `present root t` says that
the selector matches under the root at the instant `t`. -/
structure Punctual (h : Host W P H C) (page : P) (selector : String)
    (present : Option H → Rat → Prop) : Prop where
  exact : h.precision = .exact
  slept : ∀ span w, 0 ≤ span → h.now (h.sleep span w) = h.now w + span
  /-- A match once present stays. -/
  stays : ∀ {root t t'}, present root t → t ≤ t' → present root t'
  onward : ∀ ms root w, 1 ≤ ms → h.now w ≤ h.now ((h.waitFor page selector ms root).runOn w).2
  inTime : ∀ ms root w, 1 ≤ ms →
    h.now ((h.waitFor page selector ms root).runOn w).2 ≤ h.now w + ms / 1000
  returns : ∀ ms root w w', 1 ≤ ms → (h.waitFor page selector ms root).runOn w = (.ok ⟨⟩, w') →
    present root (h.now w')
  /-- It can give up early, but only while the selector does not match. -/
  givesUp : ∀ ms root w w' f, 1 ≤ ms → (h.waitFor page selector ms root).runOn w = (.error f, w') →
    f.cause.isTimeout = true ∧ ¬ present root (h.now w')

/-- A page on a plain clock, whose matches come up at given times and which waits as long as it is told. -/
def timetable (appears : Option H → Rat) : Host Rat Unit H C where
  blank _ := blankUrl
  navigate _ visit := return ⟨none, visit.url⟩
  waitFor _ selector ms root := do
    let now ← get
    if appears root ≤ now + ms / 1000 then set (max now (appears root))
    else
      set (now + ms / 1000)
      Act.fail (Cause.waitExpired (Cause.waitMessage selector (toString ms)))
  queryAll _ _ _ := return []
  extract _ _ _ _ := return none
  precision := .exact
  now w := w
  sleep span w := w + span
  emit _ w := w
  call _ page _ := return .pair page .absent
  samePage _ _ := true

theorem timetable_waitFor (appears : Option H → Rat) (selector : String) (ms : Int)
    (root : Option H) (w : Rat) :
    ((timetable (C := C) appears).waitFor () selector ms root).runOn w =
      if appears root ≤ w + ms / 1000 then (.ok ⟨⟩, max w (appears root))
      else (.error (Cause.waitExpired (Cause.waitMessage selector (toString ms))), w + ms / 1000) := by
  simp only [timetable, Act.runOn_bind, Act.runOn_get]
  split <;> rfl

theorem timetable_punctual (appears : Option H → Rat) (selector : String) :
    Punctual (timetable (C := C) appears) () selector fun root t => appears root ≤ t where
  exact := rfl
  slept _ _ _ := rfl
  stays := le_trans
  onward ms root w least := by
    have whole : (1 : Rat) ≤ ms := by exact_mod_cast least
    rw [timetable_waitFor]
    split
    · exact le_max_left _ _
    · show w ≤ w + ms / 1000
      linarith
  inTime ms root w least := by
    have whole : (1 : Rat) ≤ ms := by exact_mod_cast least
    rw [timetable_waitFor]
    split
    · exact max_le (show w ≤ w + ms / 1000 by linarith) ‹_›
    · exact le_refl _
  returns ms root w w' least run := by
    rw [timetable_waitFor] at run
    split at run
    · cases run
      exact le_max_right _ _
    · cases run
  givesUp ms root w w' f least run := by
    rw [timetable_waitFor] at run
    split at run
    · cases run
    · cases run
      exact ⟨rfl, ‹_›⟩

theorem timetable_paces (appears : Option H → Rat) (pollMs : Int) :
    (timetable (C := C) appears).Paces pollMs :=
  fun _ _ => rfl

/-- The call is given at least one millisecond, and otherwise no more than remains. -/
def Allotted (selector : String) (deadline : Rat) (c : NotedCall P H) : Prop :=
  ∃ ms root, c.call = .waitFor selector ms root ∧ 1 ≤ ms ∧
    ms ≤ max 1 ((deadline - c.instant) * 1000).ceil

namespace Punctual
variable {h : Host W P H C} {page : P} {selector : String} {present : Option H → Rat → Prop}
  (punctual : Punctual h page selector present)
include punctual

theorem callTimeout_eq (deadline now : Rat) :
    callTimeout h.precision deadline now = .ok (max 1 ((deadline - now) * 1000).ceil) := by
  rw [punctual.exact]
  rfl

theorem seconds_eq (ms : Int) : h.precision.seconds ms = .ok (ms / 1000) := by
  rw [punctual.exact]
  rfl

theorem near_eq (q : Rat) : h.precision.near q = q := by
  rw [punctual.exact]
  rfl

end Punctual

/-- All sleeps before the deadline fit into the retries, however short the last one is. -/
theorem left_le_retryBound (wait : Wait) (now : Rat) :
    (wait.deadline - now) / wait.poll ≤ (retryBound wait now : Rat) := by
  have up : (wait.deadline - now) / wait.poll ≤ (((wait.deadline - now) / wait.poll).ceil : Rat) :=
    Rat.le_ceil
  have whole : (((wait.deadline - now) / wait.poll).ceil : Rat) ≤
      ((((wait.deadline - now) / wait.poll).ceil.toNat : Int) : Rat) := by
    exact_mod_cast Int.self_le_toNat _
  have nonneg : (0 : Rat) ≤ (((wait.deadline - now) / wait.poll).ceil.toNat : Rat) := Nat.cast_nonneg _
  rw [Int.cast_natCast] at whole
  unfold retryBound
  push_cast
  linarith

/-- A call that is given what remains, rounded up, ends less than a millisecond late. -/
theorem grace_of_call {deadline now : Rat} {ms : Int}
    (told : ms = max 1 ((deadline - now) * 1000).ceil) :
    now + ms / 1000 ≤ max now deadline + 1 / 1000 := by
  have up : (((deadline - now) * 1000).ceil : Rat) < (deadline - now) * 1000 + 1 := Rat.ceil_lt
  rw [told]
  rcases max_choice 1 ((deadline - now) * 1000).ceil with one | rest
  · rw [one]
    have := le_max_left now deadline
    push_cast
    linarith
  · rw [rest]
    have := le_max_right now deadline
    linarith

/-- What waiting under roots in turn comes to by the clock, whenever it begins. -/
structure OnTime {α : Type} (h : Host W P H C) (selector : String) (present : Option H → Rat → Prop)
    (deadline : Rat) (expired : Failure) (roots : List (Option H)) (w : W)
    (calls : List (NotedCall P H)) (out : Except Failure α) (w' : W) : Prop where
  onward : h.now w ≤ h.now w'
  grace : h.now w' ≤ max (h.now w) deadline + roots.length / 1000
  found : ∀ a, out = .ok a → ∀ root ∈ roots, present root (h.now w')
  late : ∀ f, out = .error f → f = expired ∧ deadline ≤ h.now w' ∧
    ∃ root ∈ roots, ¬ present root (h.now w')
  allotted : ∀ c ∈ calls, Allotted selector deadline c

section
variable {h : Host W P H C} {page : P} {selector : String} {present : Option H → Rat → Prop}
  (punctual : Punctual h page selector present)
include punctual

/-- One call under a root, as its page answers it. -/
theorem onTime_of_call {deadline : Rat} {root : Option H} {ms : Int} {w w' : W}
    {calls : List (NotedCall P H)} {out : Except Failure Unit}
    (told : callTimeout h.precision deadline (h.now w) = .ok ms)
    (asked : WaitedFor h page selector ms root w calls out w') :
    1 ≤ ms ∧ h.now w ≤ h.now w' ∧ h.now w' ≤ max (h.now w) deadline + 1 / 1000 ∧
      ∀ c ∈ calls, Allotted selector deadline c := by
  rw [punctual.callTimeout_eq, Except.ok.injEq] at told
  have least : 1 ≤ ms := told ▸ le_max_left _ _
  obtain ⟨noted, run⟩ := asked
  have onward := punctual.onward ms root w least
  have inTime := punctual.inTime ms root w least
  rw [run] at onward inTime
  refine ⟨least, onward, inTime.trans (grace_of_call told.symm), ?_⟩
  intro c mem
  rw [noted, List.mem_singleton] at mem
  subst mem
  exact ⟨ms, root, rfl, least, told.ge⟩

/-- There are retries for all sleeps before the deadline, so the page is not given up earlier. -/
theorem Polled.onTime {wait : Wait} (about : wait.selector = selector) (pos : 0 < wait.poll)
    (paces : h.refuses wait.poll = false) {root : Option H} {n : Nat} {w w' : W}
    {calls : List (NotedCall P H)} {out : Except Failure Unit}
    (polled : Polled h wait page root n w calls out w')
    (enough : wait.deadline - h.now w ≤ n * wait.poll) :
    OnTime h selector present wait.deadline wait.expired [root] w calls out w' := by
  subst about
  induction polled with
  | @found n ms w w₁ calls told asked =>
    obtain ⟨least, onward, grace, allotted⟩ := onTime_of_call punctual told asked
    refine ⟨onward, by simpa using grace, ?_, nofun, allotted⟩
    intro _ _ root mem
    rw [List.mem_singleton] at mem
    subst mem
    exact punctual.returns ms _ w w₁ least asked.2
  | @raised n ms w w₁ calls f told asked other =>
    obtain ⟨least, -⟩ := onTime_of_call punctual told asked
    have timeout := (punctual.givesUp ms root w w₁ f least asked.2).1
    rw [other] at timeout
    cases timeout
  | @expired n ms w w₁ calls f told asked timeout late =>
    obtain ⟨least, onward, grace, allotted⟩ := onTime_of_call punctual told asked
    refine ⟨onward, by simpa using grace, nofun, ?_, allotted⟩
    intro f' failed
    cases failed
    refine ⟨rfl, ?_, root, List.mem_singleton_self root, (punctual.givesUp ms root w w₁ f least asked.2).2⟩
    rcases late with none | passed
    · subst none
      simp only [Nat.cast_zero, zero_mul] at enough
      linarith
    · rw [punctual.near_eq] at passed
      linarith
  | restless told asked timeout early refused =>
    rw [Clock.takes_of_le paces (shorter_le_left _ _)] at refused
    cases refused
  | @again n ms w w₁ w₂ calls more f out told asked timeout early taken later ih =>
    obtain ⟨least, onward, grace, allotted⟩ := onTime_of_call punctual told asked
    rw [punctual.near_eq] at early ih
    -- the sleep ends before the deadline, and uses up one interval or all that remains
    have span : 0 ≤ shorter wait.poll (wait.deadline - h.now w₁) ∧
        shorter wait.poll (wait.deadline - h.now w₁) ≤ wait.deadline - h.now w₁ ∧
        wait.deadline - h.now w₁ - shorter wait.poll (wait.deadline - h.now w₁) ≤ n * wait.poll := by
      unfold shorter
      push_cast at enough
      split
      · refine ⟨pos.le, ‹_›, ?_⟩
        linarith
      · refine ⟨early.le, le_refl _, ?_⟩
        have := mul_nonneg (Nat.cast_nonneg n : (0 : Rat) ≤ n) pos.le
        linarith
    have slept := punctual.slept (shorter wait.poll (wait.deadline - h.now w₁)) w₁ span.1
    have rest := ih (by rw [slept]; linarith [span.2.2])
    have before : h.now (h.sleep (shorter wait.poll (wait.deadline - h.now w₁)) w₁) ≤ wait.deadline := by
      rw [slept]; linarith [span.2.1]
    refine ⟨?_, ?_, rest.found, rest.late, ?_⟩
    · have := rest.onward
      rw [slept] at this
      linarith [span.1]
    · have := rest.grace
      rw [max_eq_right before] at this
      exact this.trans (by linarith [le_max_right (h.now w) wait.deadline])
    · intro c mem
      rcases List.mem_append.mp mem with first | second
      · exact allotted c first
      · exact rest.allotted c second
  | unclocked fault =>
    rw [punctual.callTimeout_eq] at fault
    cases fault

theorem Attended.onTime {d : Defaults} (paces : h.Paces d.pollIntervalMs)
    {timeoutMs : Int} {deadline : Rat} {root : Option H} {w w' : W}
    {calls : List (NotedCall P H)} {out : Except Failure Unit}
    (attended : Attended h d page selector timeoutMs deadline root w calls out w') :
    OnTime h selector present deadline (Cause.selectorTimeout (.text selector) (.int timeoutMs)) [root]
      w calls out w' := by
  cases attended with
  | @polled poll w w' calls out interval polled =>
    have taken := paces poll interval
    rw [punctual.seconds_eq, Except.ok.injEq] at interval
    have pos : 0 < poll := by
      have least : (1 : Rat) ≤ (max d.pollIntervalMs 1 : Int) := by exact_mod_cast le_max_right _ _
      rw [← interval]
      linarith
    refine polled.onTime punctual rfl pos taken ?_
    exact (div_le_iff₀ pos).mp (left_le_retryBound _ _)
  | unclocked fault =>
    rw [punctual.seconds_eq] at fault
    cases fault

theorem OnTime.next {deadline : Rat} {expired : Failure} {root : Option H} {rest : List (Option H)}
    {w w₁ w₂ : W} {calls more : List (NotedCall P H)} {out : Except Failure (List Unit)}
    (first : OnTime (α := Unit) h selector present deadline expired [root] w calls (.ok ⟨⟩) w₁)
    (others : OnTime h selector present deadline expired rest w₁ more out w₂) :
    OnTime h selector present deadline expired (root :: rest) w (calls ++ more)
      (out.map (⟨⟩ :: ·)) w₂ := by
  refine ⟨first.onward.trans others.onward, ?_, ?_, ?_, ?_⟩
  · have one := first.grace
    have many := others.grace
    simp only [List.length_cons, List.length_nil] at one ⊢
    push_cast at one ⊢
    have nonneg : (0 : Rat) ≤ rest.length := Nat.cast_nonneg _
    rcases max_choice (h.now w₁) deadline with same | same
    · rw [same] at many
      linarith
    · rw [same] at many
      linarith [le_max_right (h.now w) deadline]
  · intro _ found r mem
    cases out with
    | error f => cases found
    | ok _ =>
      rcases List.mem_cons.mp mem with rfl | mem
      · exact punctual.stays (first.found _ rfl _ (List.mem_singleton_self _)) others.onward
      · exact others.found _ rfl r mem
  · intro f failed
    cases out with
    | ok _ => cases failed
    | error f' =>
      cases failed
      obtain ⟨same, reached, r, mem, absent⟩ := others.late f rfl
      exact ⟨same, reached, r, List.mem_cons_of_mem _ mem, absent⟩
  · intro c mem
    rcases List.mem_append.mp mem with one | many
    · exact first.allotted c one
    · exact others.allotted c many

theorem InTurn.onTime {d : Defaults} (paces : h.Paces d.pollIntervalMs)
    {timeoutMs : Int} {deadline : Rat} {roots : List (Option H)}
    {w w' : W} {calls : List (NotedCall P H)} {out : Except Failure (List Unit)}
    (asked : InTurn (Attended h d page selector timeoutMs deadline) roots w calls out w') :
    OnTime h selector present deadline (Cause.selectorTimeout (.text selector) (.int timeoutMs)) roots
      w calls out w' := by
  induction asked with
  | nil w => exact ⟨le_refl _, by simp, by simp, nofun, by simp⟩
  | next first others ih => exact OnTime.next punctual (Attended.onTime punctual paces first) ih
  | @stop root rest w w₁ calls f failed =>
    have first := Attended.onTime punctual paces failed
    refine ⟨first.onward, ?_, nofun, ?_, first.allotted⟩
    · have := first.grace
      simp only [List.length_cons, List.length_nil] at this ⊢
      push_cast at this ⊢
      have nonneg : (0 : Rat) ≤ rest.length := Nat.cast_nonneg _
      linarith
    · intro f' same
      cases same
      obtain ⟨same, reached, r, mem, absent⟩ := first.late f rfl
      rw [List.mem_singleton] at mem
      exact ⟨same, reached, r, mem ▸ List.mem_cons_self, absent⟩

end

/-- A wait of `timeoutMs` under `n` roots succeeds when every match is there by the deadline, and fails
with the whole timeout when some match is not there `n` milliseconds later. It never fails before the
deadline, always ends within that grace, and gives every call a timeout that the remaining time bears
out. -/
theorem waitStep_meets_deadline {h : Host W P H C} (d : Defaults) (state : ReplayState P H)
    {selector : String} {present : Option H → Rat → Prop}
    (punctual : Punctual h state.page selector present) (paces : h.Paces d.pollIntervalMs)
    {requested : Value} {timeoutMs : Int}
    (timeout : effectiveTimeout d requested = .ok timeoutMs) (nonneg : 0 ≤ timeoutMs) (w : W)
    {deadline grace : Rat} (ends : deadline = h.now w + timeoutMs / 1000)
    (beyond : grace = deadline + state.scope.roots.length / 1000) :
    ∃ calls out w' log, (waitStep h.recorded d selector requested state).runOn ⟨w, [], []⟩ =
        (out, ⟨w', log, calls⟩) ∧
      ((∀ root ∈ state.scope.roots, present root deadline) → out = .ok state) ∧
      ((∃ root ∈ state.scope.roots, ¬ present root grace) →
        out = .error (Cause.selectorTimeout (.text selector) (.int timeoutMs))) ∧
      (∀ f, out = .error f → f = Cause.selectorTimeout (.text selector) (.int timeoutMs) ∧
        deadline ≤ h.now w') ∧
      h.now w' ≤ grace ∧
      ∀ c ∈ calls, Allotted selector deadline c := by
  obtain ⟨calls, out, w', asked, does⟩ := does_waits h.recorded_records d state w timeout
    (punctual.seconds_eq timeoutMs)
  rw [punctual.near_eq, ← ends] at asked
  have onTime := InTurn.onTime punctual paces asked
  obtain ⟨log, run⟩ := does.runOn_recorded
  have soon : h.now w ≤ deadline := by
    have : (0 : Rat) ≤ timeoutMs := by exact_mod_cast nonneg
    rw [ends]
    linarith
  have ended : h.now w' ≤ grace := by
    have := onTime.grace
    rw [max_eq_right soon] at this
    rwa [beyond]
  refine ⟨calls, _, w', log, run, ?_, ?_, ?_, ended, onTime.allotted⟩
  · intro all
    cases out with
    | ok _ => rfl
    | error f =>
      obtain ⟨-, reached, root, mem, absent⟩ := onTime.late f rfl
      exact absurd (punctual.stays (all root mem) reached) absent
  · rintro ⟨root, mem, absent⟩
    cases out with
    | ok a => exact absurd (punctual.stays (onTime.found a rfl root mem) ended) absent
    | error f => rw [(onTime.late f rfl).1]; rfl
  · intro f failed
    cases out with
    | ok a => cases failed
    | error f' =>
      cases failed
      exact ⟨(onTime.late f rfl).1, (onTime.late f rfl).2.1⟩

/-- One match comes in time and one far too late: the wait of a second ends with a failure, at most two
milliseconds after it. -/
theorem waitStep_meets_deadline_of_timetable :
    Punctual (timetable (C := Empty) fun root => if root = some 1 then 1 / 4 else 5) () "li"
      (fun root t => (if root = some 1 then (1 : Rat) / 4 else 5) ≤ t) ∧
    effectiveTimeout {} (.int 1000) = .ok 1000 ∧
    ∃ calls out w' log, (waitStep
        (timetable (C := Empty) fun root => if root = some 1 then 1 / 4 else 5).recorded {} "li"
        (.int 1000) ⟨(), .grouped [1, 2], [], 0⟩).runOn ⟨0, [], []⟩ = (out, ⟨w', log, calls⟩) ∧
      out = .error (Cause.selectorTimeout (.text "li") (.int 1000)) ∧ 1 ≤ w' ∧ w' ≤ 1 + 2 / 1000 := by
  refine ⟨timetable_punctual _ "li", rfl, ?_⟩
  obtain ⟨calls, out, w', log, run, -, late, never, ended, -⟩ :=
    waitStep_meets_deadline {} ⟨(), .grouped [1, 2], [], 0⟩
      (timetable_punctual (C := Empty) (fun root => if root = some 1 then 1 / 4 else 5) "li")
      (timetable_paces _ 50)
      (show effectiveTimeout {} (.int 1000) = .ok 1000 from rfl) (by decide) 0
      (show (1 : Rat) = 0 + (1000 : Int) / 1000 by norm_num)
      (show (1 + 2 / 1000 : Rat) = 1 + (2 : Nat) / 1000 by norm_num)
  have failed := late ⟨some 2, by decide, by norm_num⟩
  exact ⟨calls, out, w', log, run, failed, (never _ failed).2, ended⟩

end PageHarvest.Replay
