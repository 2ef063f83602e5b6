import PageHarvest.Proofs.Replay.Recording

/-!
The loop that waits under one root, call by call. `Polled` follows the clock: it says which timeout
every call is given, when the page is asked again, and after which sleep.
-/
namespace PageHarvest.Replay
open Handler
variable {W P H C : Type}

/-- Asking a page until it succeeds, fails otherwise than by timeout, or no time or retry is left. -/
inductive Polled (h : Host W P H C) (wait : Wait) (page : P) (root : Option H) :
    Nat → W → List (NotedCall P H) → Except Failure Unit → W → Prop where
  | found {n ms w w₁ calls} (told : callTimeout h.precision wait.deadline (h.now w) = .ok ms)
      (asked : WaitedFor h page wait.selector ms root w calls (.ok ⟨⟩) w₁) :
      Polled h wait page root n w calls (.ok ⟨⟩) w₁
  | raised {n ms w w₁ calls f} (told : callTimeout h.precision wait.deadline (h.now w) = .ok ms)
      (asked : WaitedFor h page wait.selector ms root w calls (.error f) w₁)
      (other : f.cause.isTimeout = false) :
      Polled h wait page root n w calls (.error f) w₁
  | expired {n ms w w₁ calls f} (told : callTimeout h.precision wait.deadline (h.now w) = .ok ms)
      (asked : WaitedFor h page wait.selector ms root w calls (.error f) w₁)
      (timeout : f.cause.isTimeout = true)
      (late : n = 0 ∨ h.precision.near (wait.deadline - h.now w₁) ≤ 0) :
      Polled h wait page root n w calls (.error wait.expired) w₁
  /-- The sleep is too long to be asked for. -/
  | restless {n ms w w₁ calls f}
      (told : callTimeout h.precision wait.deadline (h.now w) = .ok ms)
      (asked : WaitedFor h page wait.selector ms root w calls (.error f) w₁)
      (timeout : f.cause.isTimeout = true)
      (early : 0 < h.precision.near (wait.deadline - h.now w₁))
      (refused : h.refuses (shorter wait.poll (h.precision.near (wait.deadline - h.now w₁))) = true) :
      Polled h wait page root (n + 1) w calls (.error Clock.tooLong) w₁
  | again {n ms w w₁ w₂ calls more f out}
      (told : callTimeout h.precision wait.deadline (h.now w) = .ok ms)
      (asked : WaitedFor h page wait.selector ms root w calls (.error f) w₁)
      (timeout : f.cause.isTimeout = true)
      (early : 0 < h.precision.near (wait.deadline - h.now w₁))
      (taken : h.refuses (shorter wait.poll (h.precision.near (wait.deadline - h.now w₁))) = false)
      (later : Polled h wait page root n
        (h.sleep (shorter wait.poll (h.precision.near (wait.deadline - h.now w₁))) w₁) more out w₂) :
      Polled h wait page root (n + 1) w (calls ++ more) out w₂
  | unclocked {n w f} (fault : callTimeout h.precision wait.deadline (h.now w) = .error f) :
      Polled h wait page root n w [] (.error f) w

/-- Waiting under one root as a step does it: with its interval, and as many retries as fit before the
deadline. -/
inductive Attended (h : Host W P H C) (d : Defaults) (page : P) (selector : String) (timeoutMs : Int)
    (deadline : Rat) (root : Option H) :
    W → List (NotedCall P H) → Except Failure Unit → W → Prop where
  | polled {poll w w' calls out} (interval : h.precision.seconds (max d.pollIntervalMs 1) = .ok poll)
      (polled : Polled h ⟨selector, timeoutMs, deadline, poll⟩ page root
        (retryBound ⟨selector, timeoutMs, deadline, poll⟩ (h.now w)) w calls out w') :
      Attended h d page selector timeoutMs deadline root w calls out w'
  | unclocked {w f} (fault : h.precision.seconds (max d.pollIntervalMs 1) = .error f) :
      Attended h d page selector timeoutMs deadline root w [] (.error f) w

/-- The rest of an attempt, once the page has answered. -/
def judged (h : Host W P H C) (wait : Wait) : Except Failure Unit → Act W (Option Rat)
  | .ok _ => return none
  | .error f => do
    if f.cause.isTimeout then return some (h.precision.near (wait.deadline - (← h.time)))
    else Act.fail f

variable {g : Host (Recorded W P H) P H C} {h : Host W P H C}

/-- One attempt asks once, unless the clock fails. What follows a timeout is told the time that
remains. -/
theorem does_attempt (records : g.Records h) (page : P) (wait : Wait) (root : Option H) (n : Nat)
    (w : W) (onTimeout : Rat → Act (Recorded W P H) Unit)
    (afterTimeout : ∀ {ms calls f w₁}, callTimeout h.precision wait.deadline (h.now w) = .ok ms →
      WaitedFor h page wait.selector ms root w calls (.error f) w₁ → f.cause.isTimeout = true →
      ∃ more out w₂, Polled h wait page root n w (calls ++ more) out w₂ ∧
        Does (onTimeout (h.precision.near (wait.deadline - h.now w₁))) w₁ more out w₂) :
    ∃ calls out w', Polled h wait page root n w calls out w' ∧
      Does (attempt g wait page root >>= fun answer => match answer with
        | none => pure ⟨⟩
        | some remaining => onTimeout remaining) w calls out w' := by
  have clock {v v' : W} {α : Type} {calls : List (NotedCall P H)} {out : Except Failure α}
      {next : Rat → Act (Recorded W P H) α} (later : Does (next (h.now v)) v calls out v') :
      Does (g.time >>= next) v calls out v' := (records.does_time v).silently later
  cases told : callTimeout h.precision wait.deadline (h.now w) with
  | error f =>
    refine ⟨[], _, w, .unclocked told, Does.bind_error (clock ?_)⟩
    rw [records.precision, told]
    exact (Does.ofExcept (.error f) w).bind_error
  | ok ms =>
    obtain ⟨calls, out, w₁, asked, does⟩ := records.does_waitFor page wait.selector ms root w
    -- the attempt up to the answer of the page; what is left depends on that answer alone
    have attempted {remaining : Except Failure (Option Rat)}
        (rest : Does (judged g wait out) w₁ [] remaining w₁) :
        Does (attempt g wait page root) w calls remaining w₁ := by
      refine clock ?_
      have told' : callTimeout g.precision wait.deadline (h.now w) = .ok ms := by
        rw [records.precision, told]
      rw [told']
      refine (Does.ofExcept (.ok ms) w).silently ?_
      rw [← List.append_nil calls]
      exact does.outcome.bind rest
    cases out with
    | ok _ =>
      refine ⟨calls, _, w₁, .found told asked, ?_⟩
      rw [← List.append_nil calls]
      exact (attempted (.pure _ w₁)).bind (.pure _ w₁)
    | error f =>
      cases timeout : f.cause.isTimeout with
      | false =>
        refine ⟨calls, _, w₁, .raised told asked timeout, Does.bind_error (attempted ?_)⟩
        simp only [judged, timeout, Bool.false_eq_true, if_false]
        exact .fail f w₁
      | true =>
        obtain ⟨more, out, w₂, polled, rest⟩ := afterTimeout told asked timeout
        refine ⟨calls ++ more, out, w₂, polled,
          Does.bind (x := some (h.precision.near (wait.deadline - h.now w₁))) (attempted ?_) rest⟩
        simp only [judged, timeout, if_true, records.precision]
        exact clock (.pure _ w₁)

theorem does_giveUp (records : g.Records h) (wait : Wait) (w : W) :
    Does (giveUp g wait) w [] (.error wait.expired) w :=
  (records.does_log _ _ _ w).silently (.fail _ w)

theorem does_waitIn (records : g.Records h) (page : P) (wait : Wait) (root : Option H) (n : Nat)
    (w : W) : ∃ calls out w', Polled h wait page root n w calls out w' ∧
      Does (waitIn g wait page root n) w calls out w' := by
  induction n generalizing w with
  | zero =>
    have loop : waitIn g wait page root 0 = attempt g wait page root >>= fun answer => match answer with
        | none => pure ⟨⟩
        | some _ => giveUp g wait := by
      refine congrArg (attempt g wait page root >>= ·) (funext fun answer => ?_)
      cases answer <;> rfl
    rw [loop]
    refine does_attempt records page wait root 0 w _ fun told asked timeout => ?_
    refine ⟨[], _, _, ?_, does_giveUp records wait _⟩
    rw [List.append_nil]
    exact .expired told asked timeout (.inl rfl)
  | succ n ih =>
    refine does_attempt records page wait root (n + 1) w (fun remaining =>
      if 0 < remaining then do
        g.rest (shorter wait.poll remaining)
        waitIn g wait page root n
      else giveUp g wait) fun {_ _ _ w₁} told asked timeout => ?_
    by_cases early : 0 < h.precision.near (wait.deadline - h.now w₁)
    · cases taken : h.refuses (shorter wait.poll (h.precision.near (wait.deadline - h.now w₁))) with
      | true =>
        refine ⟨[], .error Clock.tooLong, w₁, ?_, ?_⟩
        · rw [List.append_nil]
          exact .restless told asked timeout early taken
        · simp only [early, if_true]
          exact (records.does_refused taken w₁).bind_error
      | false =>
        obtain ⟨more, out, w₂, later, rest⟩ := ih _
        refine ⟨more, out, w₂, .again told asked timeout early taken later, ?_⟩
        simp only [early, if_true]
        exact (records.does_taken taken w₁).silently rest
    · refine ⟨[], .error wait.expired, w₁, ?_, ?_⟩
      · rw [List.append_nil]
        exact .expired told asked timeout (.inr (Rat.not_lt.mp early))
      · simp only [early, if_false]
        exact does_giveUp records wait w₁

theorem does_waitUnder (records : g.Records h) (d : Defaults) (selector : String) (timeoutMs : Int)
    (deadline : Rat) (page : P) (root : Option H) (w : W) : ∃ calls out w',
    Attended h d page selector timeoutMs deadline root w calls out w' ∧
      Does (waitUnder g d selector timeoutMs deadline page root) w calls out w' := by
  cases interval : h.precision.seconds (max d.pollIntervalMs 1) with
  | error f =>
    refine ⟨[], _, w, .unclocked interval, ?_⟩
    rw [waitUnder, records.precision, interval]
    exact (Does.ofExcept _ w).bind_error
  | ok poll =>
    obtain ⟨calls, out, w', polled, does⟩ := does_waitIn records page
      ⟨selector, timeoutMs, deadline, poll⟩ root
      (retryBound ⟨selector, timeoutMs, deadline, poll⟩ (h.now w)) w
    refine ⟨calls, out, w', .polled interval polled, ?_⟩
    rw [waitUnder, records.precision, interval]
    exact (Does.ofExcept (.ok poll) w).silently ((records.does_time w).silently does)

end PageHarvest.Replay
