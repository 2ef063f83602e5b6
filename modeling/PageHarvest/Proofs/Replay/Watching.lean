import Mathlib.Algebra.Order.Floor.Semifield
import Mathlib.Data.List.Sort
import Mathlib.Data.Rat.Floor
import Mathlib.Tactic.Linarith
import PageHarvest.Proofs.Replay.Motion
import PageHarvest.Replay.Watch

/-!
When a watch looks. By a clock that rounds nothing and that only sleep moves, it looks at instants an
interval apart until its deadline is reached, and there once more.
-/
namespace PageHarvest.Watch
variable {W A : Type} {v : Watch W A} {interval deadline : Rat} {expired : Failure}

section Looks
variable {w w' : W}

theorem poll_found {a : A} (found : v.glance.runOn w = (.ok (some a), w')) (n : Nat) :
    (v.poll interval deadline expired (n + 1)).runOn w = (.ok a, w') := by
  rw [poll, Act.runOn_bind, found]
  rfl

theorem poll_failed {f : Failure} (failed : v.glance.runOn w = (.error f, w')) (n : Nat) :
    (v.poll interval deadline expired (n + 1)).runOn w = (.error f, w') := by
  rw [poll, Act.runOn_bind, failed]

section Missed
variable (missed : v.glance.runOn w = (.ok none, w'))
include missed

theorem poll_over (late : v.precision.near (deadline - v.now w') ≤ 0) (n : Nat) :
    (v.poll interval deadline expired (n + 1)).runOn w = (.error expired, w') := by
  rw [poll, Act.runOn_bind, missed]
  dsimp only
  rw [Act.runOn_bind, Act.runOn_get]
  dsimp only
  rw [if_pos late]
  rfl

section Early
variable (early : 0 < v.precision.near (deadline - v.now w'))
include early

theorem poll_early (n : Nat) : (v.poll interval deadline expired (n + 1)).runOn w =
    (v.rest (shorter interval (v.precision.near (deadline - v.now w'))) >>= fun _ =>
      v.poll interval deadline expired n).runOn w' := by
  rw [poll, Act.runOn_bind, missed]
  dsimp only
  rw [Act.runOn_bind, Act.runOn_get]
  dsimp only
  rw [if_neg (not_le.mpr early)]

theorem poll_restless (refused : v.refuses (shorter interval (v.precision.near (deadline - v.now w'))) = true)
    (n : Nat) : (v.poll interval deadline expired (n + 1)).runOn w = (.error Clock.tooLong, w') := by
  rw [poll_early missed early, Clock.rest_of_refuses refused]
  rfl

theorem poll_again (taken : v.refuses (shorter interval (v.precision.near (deadline - v.now w'))) = false)
    (n : Nat) : (v.poll interval deadline expired (n + 1)).runOn w = (v.poll interval deadline expired n).runOn
      (v.sleep (shorter interval (v.precision.near (deadline - v.now w'))) w') := by
  rw [poll_early missed early, Clock.rest_of_takes taken]
  rfl

end Early
end Missed

theorem one_le_rounds (span : Rat) (nonneg : 0 ≤ interval) : 1 ≤ rounds interval span := by
  have left : 0 ≤ later span 0 := by
    unfold later
    split
    · exact le_refl 0
    · rename_i past
      exact le_of_lt (not_le.mp past)
  have more : (0 : Rat) < later span 0 / interval * 2 + 4 := by
    have quotient := div_nonneg left nonneg
    linarith
  have whole := Int.cast_pos.mp (lt_of_lt_of_le more Rat.le_ceil)
  unfold rounds
  omega

end Looks

section Motion
variable {R : W → W → Prop} [IsPreorder W R] (glances : Act.Moves R v.glance)
  (sleeps : ∀ d w, 0 ≤ d → R w (v.sleep d w))
include glances sleeps

theorem moves_poll {interval : Rat} (nonneg : 0 ≤ interval) (deadline : Rat) (expired : Failure) (n : Nat) :
    Act.Moves R (v.poll interval deadline expired n) := by
  induction n with
  | zero => exact .fail _
  | succ n ih =>
    refine .bind glances fun seen => ?_
    cases seen with
    | some a => exact .pure _
    | none =>
      refine .bind .get fun w => ?_
      dsimp only
      split
      · exact .fail _
      · rename_i early
        exact .bind (.rest fun w => sleeps _ w (shorter_nonneg nonneg (not_le.mp early).le)) fun _ => ih

theorem moves_await {pollMs : Int}
    (told : ∀ interval, v.precision.seconds (max pollMs 1) = .ok interval → 0 ≤ interval) (timeoutMs : Int)
    (expired : Failure) : Act.Moves R (v.await pollMs timeoutMs expired) := by
  refine .bind .get fun w => .bind (.ofExcept _) fun timeout => ?_
  dsimp only
  cases interval : v.precision.seconds (max pollMs 1) with
  | error f => exact .fail f
  | ok interval' => exact moves_poll glances sleeps (told _ interval) _ _ _

end Motion

/-- The same watch, with a list of the instants at which it has looked. -/
def noting (v : Watch W A) : Watch (W × List Rat) A where
  toClock := v.toClock.within Prod.fst fun pass w => (pass w.1, w.2)
  glance := ExceptT.mk fun w =>
    let (seen, w') := v.glance.runOn w.1
    (seen, w', w.2 ++ [v.now w.1])

theorem noting_glance (v : Watch W A) (w : W) (looks : List Rat) :
    v.noting.glance.runOn (w, looks) =
      ((v.glance.runOn w).1, (v.glance.runOn w).2, looks ++ [v.now w]) :=
  rfl

theorem poll_noting (n : Nat) (w : W) (looks : List Rat) : ∃ looks',
    (v.noting.poll interval deadline expired n).runOn (w, looks) =
      (((v.poll interval deadline expired n).runOn w).1,
        ((v.poll interval deadline expired n).runOn w).2, looks') := by
  induction n generalizing w looks with
  | zero => exact ⟨looks, rfl⟩
  | succ n ih =>
    have noted := noting_glance v w looks
    rcases seen : v.glance.runOn w with ⟨f | a | a, w'⟩
    · rw [seen] at noted
      rw [poll_failed noted, poll_failed seen]
      exact ⟨_, rfl⟩
    · rw [seen] at noted
      by_cases late : v.precision.near (deadline - v.now w') ≤ 0
      · rw [poll_over noted late, poll_over seen late]
        exact ⟨_, rfl⟩
      · have early := not_le.mp late
        cases taken : v.refuses (shorter interval (v.precision.near (deadline - v.now w'))) with
        | true =>
          rw [poll_restless noted early taken, poll_restless seen early taken]
          exact ⟨_, rfl⟩
        | false =>
          rw [poll_again noted early taken, poll_again seen early taken]
          exact ih _ _
    · rw [seen] at noted
      rw [poll_found noted, poll_found seen]
      exact ⟨_, rfl⟩

variable (v) in
/-- Noting when it looks changes nothing else of a wait. -/
theorem await_noting (pollMs timeoutMs : Int) (expired : Failure) (w : W) (looks : List Rat) : ∃ looks',
    (v.noting.await pollMs timeoutMs expired).runOn (w, looks) =
      (((v.await pollMs timeoutMs expired).runOn w).1,
        ((v.await pollMs timeoutMs expired).runOn w).2, looks') := by
  have precision : v.noting.precision = v.precision := rfl
  unfold await
  simp only [Act.runOn_bind, Act.runOn_get, Act.runOn_ofExcept, precision]
  cases v.precision.seconds timeoutMs with
  | error f => exact ⟨looks, rfl⟩
  | ok timeout =>
    dsimp only
    cases v.precision.seconds (max pollMs 1) with
    | error f => exact ⟨looks, rfl⟩
    | ok interval => exact poll_noting _ w looks

/-- The seconds between two looks. -/
def period (pollMs : Int) : Rat :=
  (max pollMs 1 : Int) / 1000

theorem period_pos (pollMs : Int) : 0 < period pollMs := by
  have least : (1 : Rat) ≤ (max pollMs 1 : Int) := by exact_mod_cast le_max_right _ _
  unfold period
  linarith

/-- The instants of a span that are whole intervals from its start, but for its end, and its end. -/
def instants (start interval span : Rat) : List Rat :=
  (List.range ⌈span / interval⌉₊).map (fun i : Nat => start + i * interval) ++ [start + max span 0]

theorem end_of_span (start span : Rat) : start + max span 0 = max start (start + span) := by
  rw [max_comm start, ← max_add_add_left, add_zero]

section Instants
variable {start interval span : Rat} (positive : 0 < interval)

theorem instants_of_over (late : span ≤ 0) (nonneg : 0 ≤ interval) : instants start interval span = [start] := by
  have none : ⌈span / interval⌉₊ = 0 := Nat.ceil_eq_zero.mpr (div_nonpos_of_nonpos_of_nonneg late nonneg)
  rw [instants, none, max_eq_right late, add_zero]
  rfl

include positive

theorem mem_instants_iff {t : Rat} : t ∈ instants start interval span ↔
    (∃ i : Nat, t = start + i * interval ∧ t < start + span) ∨ t = start + max span 0 := by
  have early (i : Nat) : i < ⌈span / interval⌉₊ ↔ start + i * interval < start + span := by
    rw [Nat.lt_ceil, lt_div_iff₀ positive, add_lt_add_iff_left]
  simp only [instants, List.mem_append, List.mem_map, List.mem_range, List.mem_singleton, early]
  constructor
  · rintro (⟨i, before, rfl⟩ | last)
    · exact .inl ⟨i, rfl, before⟩
    · exact .inr last
  · rintro (⟨i, rfl, before⟩ | last)
    · exact .inl ⟨i, before, rfl⟩
    · exact .inr last

theorem pairwise_instants : (instants start interval span).Pairwise (· < ·) := by
  refine List.pairwise_append.mpr ⟨?_, List.pairwise_singleton _ _, ?_⟩
  · refine List.pairwise_map.mpr (List.pairwise_lt_range.imp fun {i j} before => ?_)
    have whole : (i : Rat) < j := by exact_mod_cast before
    have longer := mul_lt_mul_of_pos_right whole positive
    linarith
  · intro t mem last at_end
    obtain ⟨i, inside, rfl⟩ := List.mem_map.mp mem
    rw [List.mem_singleton.mp at_end]
    have before := (lt_div_iff₀ positive).mp (Nat.lt_ceil.mp (List.mem_range.mp inside))
    have most := le_max_left span 0
    linarith

/-- After the first instant come those of what is left of the span after one sleep. -/
theorem instants_of_left (left : 0 < span) : instants start interval span =
    start :: instants (start + shorter interval span) interval (span - shorter interval span) := by
  unfold shorter
  split
  · rename_i short
    have nonneg : 0 ≤ span - interval := sub_nonneg.mpr short
    have count : ⌈span / interval⌉₊ = ⌈(span - interval) / interval⌉₊ + 1 := by
      rw [← Nat.ceil_add_one (div_nonneg nonneg positive.le), sub_div, div_self positive.ne', sub_add_cancel]
    have next (i : Nat) : start + (i + 1 : Nat) * interval = start + interval + i * interval := by
      push_cast
      ring
    rw [instants, instants, count, List.range_succ_eq_map, max_eq_left left.le, max_eq_left nonneg]
    simp only [List.map_cons, List.map_map, Function.comp_def, Nat.succ_eq_add_one, next, Nat.cast_zero,
      zero_mul, add_zero, List.cons_append]
    rw [show start + interval + (span - interval) = start + span by ring]
  · rename_i long
    have once : ⌈span / interval⌉₊ = 1 := by
      have below : span / interval ≤ (1 : Nat) := by
        rw [Nat.cast_one]
        exact (div_le_one positive).mpr (not_le.mp long).le
      have least : 0 < ⌈span / interval⌉₊ := Nat.ceil_pos.mpr (div_pos left positive)
      have most := Nat.ceil_le.mpr below
      omega
    rw [instants_of_over (sub_self span).le positive.le, instants, once, max_eq_left left.le]
    simp

theorem exists_instants_eq_cons (start span : Rat) : ∃ later, instants start interval span = start :: later := by
  by_cases late : span ≤ 0
  · exact ⟨[], instants_of_over late positive.le⟩
  · exact ⟨_, instants_of_left positive (not_le.mp late)⟩

/-- When a watch is to look: at each whole interval that lies before the end of the span, and at its end. -/
structure Schedule (start interval span : Rat) (looks : List Rat) : Prop where
  ordered : looks.Pairwise (· < ·)
  mem_iff : ∀ t, t ∈ looks ↔
    (∃ i : Nat, t = start + i * interval ∧ t < start + span) ∨ t = max start (start + span)

theorem schedule_instants : Schedule start interval span (instants start interval span) := by
  refine ⟨pairwise_instants positive, fun t => ?_⟩
  rw [mem_instants_iff positive, ← end_of_span]

omit positive in
theorem Schedule.unique {looks looks' : List Rat} (schedule : Schedule start interval span looks)
    (schedule' : Schedule start interval span looks') : looks = looks' :=
  schedule.ordered.eq_of_mem_iff schedule'.ordered fun t => (schedule.mem_iff t).trans (schedule'.mem_iff t).symm

theorem length_instants_le : (instants start interval span).length ≤ rounds interval span := by
  have span_le : span ≤ later span 0 := by
    unfold later
    split
    · assumption
    · exact le_refl _
  have nonneg : 0 ≤ later span 0 := by
    unfold later
    split
    · exact le_refl 0
    · rename_i past
      exact (not_le.mp past).le
  have quotient : 0 ≤ later span 0 / interval := div_nonneg nonneg positive.le
  have fewer : span / interval ≤ later span 0 / interval := div_le_div_of_nonneg_right span_le positive.le
  have below : (⌈span / interval⌉₊ : Rat) < later span 0 / interval + 1 :=
    lt_of_le_of_lt (Nat.cast_le.mpr (Nat.ceil_le_ceil fewer)) (Nat.ceil_lt_add_one quotient)
  have up : later span 0 / interval * 2 + 4 ≤ ((later span 0 / interval * 2 + 4).ceil : Rat) := Rat.le_ceil
  have whole : ((⌈span / interval⌉₊ + 1 : Int) : Rat) ≤ ((later span 0 / interval * 2 + 4).ceil : Rat) := by
    push_cast
    linarith
  have counted : (instants start interval span).length = ⌈span / interval⌉₊ + 1 := by simp [instants]
  have inside := Int.cast_le.mp whole
  unfold rounds
  omega

end Instants

/-- A watch in worlds that are what time makes of them, by an exact clock that sleep alone moves. What
there is to see at each time is `shown`. -/
structure Follows (v : Watch W A) (world : Rat → W) (shown : Rat → Except Failure (Option A)) : Prop where
  exact : v.precision = .exact
  now : ∀ t, v.now (world t) = t
  sleep : ∀ d t, v.sleep d (world t) = world (t + d)
  glance : ∀ t, v.glance.runOn (world t) = (shown t, world t)

namespace Follows
variable {world : Rat → W} {shown : Rat → Except Failure (Option A)} (follows : v.Follows world shown)
include follows

theorem noted_glance (t : Rat) (looks : List Rat) :
    v.noting.glance.runOn (world t, looks) = (shown t, world t, looks ++ [t]) := by
  rw [noting_glance, follows.glance, follows.now]

theorem poll_expired {t : Rat} (missed : shown t = .ok none) (late : deadline ≤ t) (looks : List Rat)
    (n : Nat) : (v.noting.poll interval deadline expired (n + 1)).runOn (world t, looks) =
      (.error expired, world t, looks ++ [t]) := by
  have noted := follows.noted_glance t looks
  rw [missed] at noted
  refine poll_over noted ?_ n
  dsimp only [noting, Clock.within]
  rw [follows.exact, follows.now]
  exact sub_nonpos.mpr late

theorem poll_sleeps (paces : v.refuses interval = false) {t : Rat} (missed : shown t = .ok none)
    (early : t < deadline) (looks : List Rat) (n : Nat) :
    (v.noting.poll interval deadline expired (n + 1)).runOn (world t, looks) =
      (v.noting.poll interval deadline expired n).runOn
        (world (t + shorter interval (deadline - t)), looks ++ [t]) := by
  have noted := follows.noted_glance t looks
  have left : v.noting.precision.near (deadline - v.noting.now (world t, looks ++ [t])) = deadline - t := by
    dsimp only [noting, Clock.within]
    rw [follows.exact, follows.now]
    rfl
  rw [missed] at noted
  rw [poll_again noted (by rw [left]; exact sub_pos.mpr early)
    (Clock.takes_of_le (c := v.noting.toClock) paces (shorter_le_left _ _)), left]
  dsimp only [noting, Clock.within]
  rw [follows.sleep]

/-- A watch that has seen nothing so far gets to each of its instants. -/
theorem poll_reaches (positive : 0 < interval) (paces : v.refuses interval = false) {start : Rat}
    {before after : List Rat} {t : Rat}
    (planned : instants start interval (deadline - start) = before ++ t :: after)
    (missed : ∀ b ∈ before, shown b = .ok none) (looks : List Rat) {n : Nat} (enough : before.length < n) :
    ∃ m, (v.noting.poll interval deadline expired n).runOn (world start, looks) =
        (v.noting.poll interval deadline expired (m + 1)).runOn (world t, looks ++ before) := by
  induction before generalizing start looks n with
  | nil =>
    obtain ⟨later, first⟩ := exists_instants_eq_cons positive start (deadline - start)
    obtain ⟨rfl, -⟩ := List.cons.inj (first.symm.trans planned)
    refine ⟨n - 1, ?_⟩
    rw [Nat.sub_add_cancel (Nat.one_le_of_lt enough), List.append_nil]
  | cons b rest ih =>
    have left : ¬ deadline - start ≤ 0 := by
      intro late
      rw [instants_of_over late positive.le] at planned
      simp at planned
    rw [instants_of_left positive (not_le.mp left)] at planned
    obtain ⟨rfl, others⟩ := List.cons.inj planned
    rw [sub_sub] at others
    obtain ⟨n, rfl⟩ := Nat.exists_eq_add_one_of_ne_zero (Nat.ne_of_gt (Nat.zero_lt_of_lt enough))
    obtain ⟨m, run⟩ := ih others (fun b mem => missed b (List.mem_cons_of_mem _ mem)) (looks ++ [start])
      (Nat.lt_of_succ_lt_succ enough)
    refine ⟨m, ?_⟩
    rw [follows.poll_sleeps paces (missed start List.mem_cons_self) (sub_pos.mp (not_le.mp left)), run,
      List.append_assoc, List.singleton_append]

section Await
variable {pollMs timeoutMs : Int} {start : Rat}

theorem await_runOn : (v.noting.await pollMs timeoutMs expired).runOn (world start, []) =
    (v.noting.poll (period pollMs) (start + timeoutMs / 1000) expired
      (rounds (period pollMs) (timeoutMs / 1000))).runOn (world start, []) := by
  have exact : v.noting.precision = .exact := follows.exact
  have now : v.noting.now (world start, []) = start := follows.now start
  have told (ms : Int) : v.noting.precision.seconds ms = .ok (ms / 1000) := by rw [exact]; rfl
  have deadline : v.noting.precision.near (start + timeoutMs / 1000) = start + timeoutMs / 1000 := by
    rw [exact]
    rfl
  unfold await
  simp only [Act.runOn_bind, Act.runOn_get, Act.runOn_ofExcept, told, now, deadline, add_sub_cancel_left]
  rfl

variable (paces : v.Paces pollMs)
include paces

variable (expired) in
theorem await_reaches (before after : List Rat) {t : Rat}
    (planned : instants start (period pollMs) (timeoutMs / 1000) = before ++ t :: after)
    (missed : ∀ b ∈ before, shown b = .ok none) :
    ∃ m, (v.noting.await pollMs timeoutMs expired).runOn (world start, []) =
      (v.noting.poll (period pollMs) (start + timeoutMs / 1000) expired (m + 1)).runOn
        (world t, before) := by
  have fits : (instants start (period pollMs) (timeoutMs / 1000)).length ≤
      rounds (period pollMs) (timeoutMs / 1000) := length_instants_le (period_pos pollMs)
  have enough : before.length < rounds (period pollMs) (timeoutMs / 1000) := by
    rw [planned, List.length_append, List.length_cons] at fits
    omega
  rw [← add_sub_cancel_left start (timeoutMs / 1000 : Rat)] at planned
  rw [follows.await_runOn]
  refine follows.poll_reaches (period_pos pollMs) (paces _ ?_) planned missed [] enough
  rw [follows.exact]
  rfl

/-- The first time that a watch sees something, or fails to look, is one of its instants, and it has
looked at all of them before. -/
theorem await_ends (before after : List Rat) {t : Rat}
    (planned : instants start (period pollMs) (timeoutMs / 1000) = before ++ t :: after)
    (missed : ∀ b ∈ before, shown b = .ok none) {out : Except Failure A} (seen : shown t = out.map some) :
    (v.noting.await pollMs timeoutMs expired).runOn (world start, []) = (out, world t, before ++ [t]) := by
  obtain ⟨m, run⟩ := follows.await_reaches expired paces before after planned missed
  have noted := follows.noted_glance t before
  rw [run]
  cases out with
  | error f =>
    rw [seen] at noted
    exact poll_failed noted m
  | ok a =>
    rw [seen] at noted
    exact poll_found noted m

/-- A watch that sees nothing ends at its deadline, or at once if that is over. -/
theorem await_expires
    (missed : ∀ t ∈ instants start (period pollMs) (timeoutMs / 1000), shown t = .ok none) :
    (v.noting.await pollMs timeoutMs expired).runOn (world start, []) =
      (.error expired, world (max start (start + timeoutMs / 1000)),
        instants start (period pollMs) (timeoutMs / 1000)) := by
  obtain ⟨m, run⟩ := follows.await_reaches expired paces _ [] rfl fun b mem =>
    missed b (List.mem_append_left _ mem)
  rw [run, follows.poll_expired (missed _ (List.mem_append_right _ (List.mem_singleton_self _))), ← end_of_span]
  · rfl
  · exact (add_le_add_iff_left start).mpr (le_max_left _ _)

end Await
end Follows
end PageHarvest.Watch
