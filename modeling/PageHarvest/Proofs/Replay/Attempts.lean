import PageHarvest.Proofs.Replay.Remaining
import PageHarvest.Proofs.Replay.Steps

/-!
What a wait makes of its calls. The first call that succeeds or raises ends it, and where an element is
waited for in vain it ends with its own failure, however often the page is asked.
-/
namespace PageHarvest.Replay
open Handler Precision
open Binary64 (twoPow)
variable {W P H C : Type}

section
variable {h : Host W P H C} {wait : Wait} {page : P} {root : Option H} {w w' : W} {ms : Int} {f : Failure}

theorem attempt_untold (untold : callTimeout h.precision wait.deadline (h.now w) = .error f) :
    (attempt h wait page root).runOn w = (.error f, w) := by
  simp only [attempt, Act.runOn_bind, runOn_time, untold, Act.runOn_ofExcept]

section
variable (told : callTimeout h.precision wait.deadline (h.now w) = .ok ms)
include told

theorem attempt_found (run : (h.waitFor page wait.selector ms root).runOn w = (.ok ⟨⟩, w')) :
    (attempt h wait page root).runOn w = (.ok none, w') := by
  simp only [attempt, Act.runOn_bind, runOn_time, told, Act.runOn_ofExcept, Act.runOn_outcome, run,
    Act.runOn_pure]

theorem attempt_expired (run : (h.waitFor page wait.selector ms root).runOn w = (.error f, w'))
    (late : f.cause.isTimeout = true) :
    (attempt h wait page root).runOn w = (.ok (some (h.precision.near (wait.deadline - h.now w'))), w') := by
  simp only [attempt, Act.runOn_bind, runOn_time, told, Act.runOn_ofExcept, Act.runOn_outcome, run, late,
    if_true, Act.runOn_pure]

theorem attempt_raised (run : (h.waitFor page wait.selector ms root).runOn w = (.error f, w'))
    (prompt : f.cause.isTimeout = false) : (attempt h wait page root).runOn w = (.error f, w') := by
  simp only [attempt, Act.runOn_bind, runOn_time, told, Act.runOn_ofExcept, Act.runOn_outcome, run, prompt,
    Bool.false_eq_true, if_false, Act.runOn_fail]

end

theorem waitIn_failed (failed : (attempt h wait page root).runOn w = (.error f, w')) (n : Nat) :
    (waitIn h wait page root n).runOn w = (.error f, w') := by
  cases n with
  | zero => rw [waitIn, Act.runOn_bind, failed]
  | succ n => rw [waitIn, Act.runOn_bind, failed]

theorem waitIn_found (found : (attempt h wait page root).runOn w = (.ok none, w')) (n : Nat) :
    (waitIn h wait page root n).runOn w = (.ok ⟨⟩, w') := by
  cases n with
  | zero => rw [waitIn, Act.runOn_bind, found]; rfl
  | succ n => rw [waitIn, Act.runOn_bind, found]; rfl

end

/-- Worlds in which a selector is waited for in vain under a root, however often. Their clock keeps to the
binary format. It does not go far back, and after a sleep it shows what the sleep makes of it, or
whatever instant it may. -/
structure InVain (h : Host W P H C) (page : P) (selector : String) (root : Option H)
    (worlds : W → Prop) : Prop where
  precision : h.precision = .double
  expires : ∀ {w ms}, worlds w → Askable ms → ∃ f w',
    (h.waitFor page selector ms root).runOn w = (.error f, w') ∧ f.cause.isTimeout = true ∧ worlds w'
  sleeps : ∀ {w span}, worlds w → 0 ≤ span → worlds (h.sleep span w)
  on : ∀ {w}, worlds w → -twoPow 900 ≤ h.now w
  slept : ∀ {w span}, worlds w → 0 ≤ span →
    h.now (h.sleep span w) ≤ max (twoPow 900) (double.near (h.now w + span))

/-- The remaining time can be told after every sleep for which there was time. -/
def Retold (wait : Wait) : Prop :=
  ∀ {later sleep woken}, -twoPow 900 ≤ later → 0 < double.near (wait.deadline - later) → 0 ≤ sleep →
    sleep ≤ double.near (wait.deadline - later) → -twoPow 900 ≤ woken →
    woken ≤ max (twoPow 900) (double.near (later + sleep)) →
    ∃ ms, callTimeout double wait.deadline woken = .ok ms

namespace InVain
variable {h : Host W P H C} {page : P} {root : Option H} {worlds : W → Prop} {wait : Wait}
  (vain : InVain h page wait.selector root worlds)
include vain

theorem attempt_expired {w : W} {ms : Int} (here : worlds w)
    (told : callTimeout double wait.deadline (h.now w) = .ok ms) : ∃ w', worlds w' ∧
      (attempt h wait page root).runOn w = (.ok (some (double.near (wait.deadline - h.now w'))), w') := by
  obtain ⟨f, w', run, late, there⟩ := vain.expires here (askable_of_callTimeout told)
  rw [← vain.precision] at told ⊢
  exact ⟨w', there, Replay.attempt_expired told run late⟩

/-- A wait whose first call has timed out is given up in the end. -/
theorem waitIn_gives_up (positive : 0 ≤ wait.poll) (paces : h.refuses wait.poll = false)
    (retold : Retold wait) (n : Nat) {w w₁ : W} (here : worlds w₁) (tried : (attempt h wait page root).runOn w =
      (.ok (some (double.near (wait.deadline - h.now w₁))), w₁)) :
    ∃ w', worlds w' ∧ (waitIn h wait page root n).runOn w = (giveUp h wait).runOn w' := by
  -- on the retries left; each sleep leads to a world in which the page is asked in vain
  induction n generalizing w w₁ with
  | zero =>
    refine ⟨w₁, here, ?_⟩
    rw [waitIn, Act.runOn_bind, tried]
    rfl
  | succ n ih =>
    rw [waitIn, Act.runOn_bind, tried]
    dsimp only
    split
    · rename_i early
      have forward := shorter_nonneg positive early.le
      have short := shorter_le_right wait.poll (double.near (wait.deadline - h.now w₁))
      have taken := Clock.takes_of_le paces
        (shorter_le_left wait.poll (double.near (wait.deadline - h.now w₁)))
      generalize shorter wait.poll (double.near (wait.deadline - h.now w₁)) = sleep at forward short taken
      have woken := vain.sleeps here forward
      obtain ⟨ms, told⟩ := retold (vain.on here) early forward short (vain.on woken)
        (vain.slept here forward)
      obtain ⟨w₂, there, again⟩ := vain.attempt_expired woken told
      rw [Clock.rest_of_takes taken, Act.runOn_bind, Act.runOn_modify]
      exact ih there again
    · exact ⟨w₁, here, rfl⟩

end InVain
end PageHarvest.Replay
