import Mathlib.Data.List.Forall2
import Mathlib.Order.Defs.Unbundled
import PageHarvest.Replay.Run

/-!
What actions do to worlds, whatever they answer. `Moves R` says that an action takes every world to one
that stands in the relation `R` to it, for relations that can be chained. A replay moves worlds as the
operations of its host do.
-/
namespace PageHarvest
namespace Act
variable {W α β : Type} {R : W → W → Prop}

/-- Whether it answers or fails, the action leaves a world that is `R` of the one before. -/
def Moves (R : W → W → Prop) (act : Act W α) : Prop :=
  ∀ w, R w (act.runOn w).2

namespace Moves
variable {act : Act W α} {next : α → Act W β}

theorem map {f : α → β} (moves : Moves R act) : Moves R (f <$> act) := by
  intro w
  rw [runOn_map]
  exact moves w

theorem modify {f : W → W} (moves : ∀ w, R w (f w)) : Moves R (modify f : Act W PUnit) :=
  moves

theorem outcome (moves : Moves R act) : Moves R (Act.outcome act) := by
  intro w
  rw [runOn_outcome]
  exact moves w

variable [IsPreorder W R]

theorem pure (x : α) : Moves R (Pure.pure x : Act W α) :=
  fun w => refl w

theorem fail (f : Failure) : Moves R (Act.fail f : Act W α) :=
  fun w => refl w

theorem ofExcept (out : Except Failure α) : Moves R (Act.ofExcept out) :=
  fun w => refl w

theorem get : Moves R (MonadState.get : Act W W) :=
  fun w => refl w

theorem bind (first : Moves R act) (second : ∀ x, Moves R (next x)) : Moves R (act >>= next) := by
  intro w
  have moved := first w
  rw [runOn_bind]
  rcases run : act.runOn w with ⟨_ | x, w₁⟩
  · rwa [run] at moved
  · rw [run] at moved
    exact IsTrans.trans _ _ _ moved (second x w₁)

/-- A sleep is either refused or taken. -/
theorem rest {c : Clock W} {span : Rat} (moves : ∀ w, R w (c.sleep span w)) : Moves R (c.rest span) := by
  unfold Clock.rest
  split
  · exact .fail _
  · exact .modify moves

/-- Setting the world to one that is computed from it. -/
theorem update {f : W → Except Failure W} (moves : ∀ {w w'}, f w = .ok w' → R w w') :
    Moves R (do set (← Act.ofExcept (f (← MonadState.get))) : Act W PUnit) := by
  intro w
  simp only [runOn_bind, runOn_get, runOn_ofExcept]
  cases done : f w with
  | error e => exact refl w
  | ok w' => exact moves done

theorem mapM {ι : Type} {each : ι → Act W α} (moves : ∀ i, Moves R (each i)) (is : List ι) :
    Moves R (is.mapM each) := by
  induction is with
  | nil => exact .pure _
  | cons i rest ih =>
    rw [List.mapM_cons]
    exact .bind (moves i) fun _ => .bind ih fun _ => .pure _

end Moves

/-- An action that answers has gone through an answer of its first part. -/
theorem runOn_bind_ok {act : Act W α} {next : α → Act W β} {w w' : W} {y : β}
    (run : (act >>= next).runOn w = (.ok y, w')) :
    ∃ x w₁, act.runOn w = (.ok x, w₁) ∧ (next x).runOn w₁ = (.ok y, w') := by
  rw [runOn_bind] at run
  rcases first : act.runOn w with ⟨_ | x, w₁⟩
  · rw [first] at run
    cases run
  · rw [first] at run
    exact ⟨x, w₁, rfl, run⟩

/-- An action fails in its first part, or after an answer of it. -/
theorem runOn_bind_error_iff {act : Act W α} {next : α → Act W β} {w : W} {f : Failure} :
    ((act >>= next).runOn w).1 = .error f ↔ (act.runOn w).1 = .error f ∨
      ∃ x w₁, act.runOn w = (.ok x, w₁) ∧ ((next x).runOn w₁).1 = .error f := by
  rw [runOn_bind]
  rcases act.runOn w with ⟨e | x, w₁⟩
  · simp
  · simp only [reduceCtorEq, false_or]
    constructor
    · exact fun failed => ⟨x, w₁, rfl, failed⟩
    · rintro ⟨_, _, ⟨⟩, failed⟩
      exact failed

theorem runOn_map_ok {f : α → β} {act : Act W α} {w w' : W} {y : β}
    (run : (f <$> act).runOn w = (.ok y, w')) : ∃ x, y = f x ∧ act.runOn w = (.ok x, w') := by
  rw [map_eq_pure_bind] at run
  obtain ⟨x, w₁, first, last⟩ := runOn_bind_ok run
  cases last
  exact ⟨x, rfl, first⟩

/-- Each answer of a sequence of actions is the answer of its own action. -/
theorem answers_of_mapM {ι : Type} {each : ι → Act W α} {is : List ι} {xs : List α} {w w' : W}
    (run : (is.mapM each).runOn w = (.ok xs, w')) :
    List.Forall₂ (fun i x => ∃ v v', (each i).runOn v = (.ok x, v')) is xs := by
  induction is generalizing xs w with
  | nil =>
    cases run
    exact .nil
  | cons i rest ih =>
    rw [List.mapM_cons] at run
    obtain ⟨x, w₁, here, run⟩ := runOn_bind_ok run
    obtain ⟨more, w₂, others, run⟩ := runOn_bind_ok run
    cases run
    exact .cons ⟨w, w₁, here⟩ (ih others)

theorem length_of_mapM {ι : Type} {each : ι → Act W α} {is : List ι} {xs : List α} {w w' : W}
    (run : (is.mapM each).runOn w = (.ok xs, w')) : xs.length = is.length :=
  (answers_of_mapM run).length_eq.symm

/-- Actions that leave a world as it is can be taken for what they come to in it. -/
theorem runOn_mapM_of_still {ι : Type} {each : ι → Act W α} {value : ι → Except Failure α} {w : W}
    {is : List ι} (still : ∀ i ∈ is, (each i).runOn w = (value i, w)) :
    (is.mapM each).runOn w = (is.mapM value, w) := by
  induction is with
  | nil => rfl
  | cons i rest ih =>
    have others := ih fun i' mem => still i' (List.mem_cons_of_mem i mem)
    rw [List.mapM_cons, List.mapM_cons, runOn_bind, still i List.mem_cons_self]
    cases value i with
    | error f => rfl
    | ok x =>
      dsimp only
      rw [runOn_bind, others]
      cases rest.mapM value <;> rfl

/-- An action whose answer passes a test answers. -/
theorem exists_ok (act : Act W α) (w : W) (test : α → W → Bool)
    (passes : (match act.runOn w with
      | (.ok x, w') => test x w'
      | (.error _, _) => false) = true) : ∃ x w', act.runOn w = (.ok x, w') ∧ test x w' := by
  rcases run : act.runOn w with ⟨_ | x, w'⟩
  · rw [run] at passes
    cases passes
  · rw [run] at passes
    exact ⟨x, w', rfl, passes⟩

/-- An action whose failure passes a test fails. -/
theorem exists_error (act : Act W α) (w : W) (test : Failure → Bool)
    (passes : (match act.runOn w with
      | (.error f, _) => test f
      | (.ok _, _) => false) = true) : ∃ f w', act.runOn w = (.error f, w') ∧ test f = true := by
  rcases run : act.runOn w with ⟨f | _, w'⟩
  · rw [run] at passes
    exact ⟨f, w', rfl, passes⟩
  · rw [run] at passes
    cases passes

end Act

namespace Replay
open Act (Moves)
open Handler
variable {W P H C : Type}

theorem moves_time {R : W → W → Prop} [IsPreorder W R] {h : Host W P H C} : Moves R h.time :=
  .bind .get fun _ => .pure _

/-- Every operation of a host that neither visits a page nor calls back takes worlds to worlds in the
relation. -/
structure ReadMoves (R : W → W → Prop) (h : Host W P H C) : Prop where
  waitFor : ∀ page selector ms root, Moves R (h.waitFor page selector ms root)
  queryAll : ∀ page selector root, Moves R (h.queryAll page selector root)
  extract : ∀ page root selector attr, Moves R (h.extract page root selector attr)
  sleep : ∀ span w, R w (h.sleep span w)
  emit : ∀ e w, R w (h.emit e w)

namespace ReadMoves
variable {R : W → W → Prop} [IsPreorder W R] {h : Host W P H C} (moves : ReadMoves R h)
include moves

omit [IsPreorder W R] in
theorem log (level : Level) (name : String) (fields : Fields) : Moves R (h.log level name fields) :=
  .modify (moves.emit _)

theorem attempt (wait : Wait) (page : P) (root : Option H) : Moves R (attempt h wait page root) := by
  refine .bind moves_time fun _ => .bind (.ofExcept _) fun _ =>
    .bind (.outcome (moves.waitFor _ _ _ _)) fun out => ?_
  split
  · exact .pure _
  · split
    · exact .bind moves_time fun _ => .pure _
    · exact .fail _

theorem giveUp (wait : Wait) : Moves R (giveUp h wait) :=
  .bind (moves.log _ _ _) fun _ => .fail _

theorem waitIn (wait : Wait) (page : P) (root : Option H) (n : Nat) :
    Moves R (waitIn h wait page root n) := by
  induction n with
  | zero =>
    refine .bind (moves.attempt wait page root) fun answer => ?_
    split
    · exact moves.giveUp wait
    · exact .pure _
  | succ n ih =>
    refine .bind (moves.attempt wait page root) fun answer => ?_
    split
    · exact .pure _
    · split
      · exact .bind (.rest (moves.sleep _)) fun _ => ih
      · exact moves.giveUp wait

theorem waitStep (d : Defaults) (selector : String) (requested : Value) (state : ReplayState P H) :
    Moves R (waitStep h d selector requested state) := by
  refine .bind (.ofExcept _) fun timeoutMs => .bind moves_time fun _ => .bind (.ofExcept _) fun _ => ?_
  refine .bind ?_ fun _ => .pure _
  rw [waitInAll_eq_mapM]
  exact .map (.mapM (fun root => .bind (.ofExcept _) fun _ => .bind moves_time fun _ =>
    moves.waitIn _ _ _ _) _)

theorem queryRoots (page : P) (selector : String) (roots : List (Option H)) :
    Moves R (queryRoots h page selector roots) := by
  rw [queryRoots_eq_mapM]
  exact .map (.mapM (moves.queryAll page selector) roots)

theorem groupStep (selector : String) (state : ReplayState P H) :
    Moves R (groupStep h selector state) :=
  .bind (moves.queryRoots _ _ _) fun _ => .bind (moves.log _ _ _) fun _ => .pure _

theorem selectStep (fields : List Field) (state : ReplayState P H) :
    Moves R (selectStep h fields state) := by
  refine .bind ?_ fun _ => .bind (moves.log _ _ _) fun _ => .pure _
  rw [readRecords_eq_mapM]
  refine .mapM (fun root => ?_) _
  rw [readFields_eq_mapM]
  exact .map (.mapM (fun f => moves.extract _ _ _ _) _)

/-- Around a handler, a step only reports. -/
theorem runStep_of_handler {d : Defaults} {s : Step C} {state : ReplayState P H}
    {go : ReplayState P H → Act W (ReplayState P H)} {name : String}
    (found : findHandler Handler.standard h d s = some (name, fun state => some <$> go state))
    (act : Moves R (go state)) (index : Nat) : Moves R (runStep h d Handler.standard index s state) := by
  rw [Replay.runStep, found]
  refine .bind (moves.log _ _ _) fun _ => .bind moves_time fun _ => ?_
  refine .bind (.bind (.outcome (.map act)) fun out => ?_) fun next => ?_
  · split
    · exact .pure _
    · exact .bind (moves.log _ _ _) fun _ => .fail _
  · split
    · exact .fail _
    · exact .bind moves_time fun _ => .bind (moves.log _ _ _) fun _ => .pure _

theorem runStep (d : Defaults) (index : Nat) {s : Step C} (stays : ∀ visit, s ≠ .navigate visit)
    (free : ∀ callback, s ≠ .eval callback) (state : ReplayState P H) :
    Moves R (runStep h d Handler.standard index s state) := by
  cases s with
  | navigate visit => exact absurd rfl (stays visit)
  | waitFor selector requested =>
    exact moves.runStep_of_handler rfl (moves.waitStep d selector requested state) index
  | groupBy selector => exact moves.runStep_of_handler rfl (moves.groupStep selector state) index
  | select fields => exact moves.runStep_of_handler rfl (moves.selectStep fields state) index
  | eval callback => exact absurd rfl (free callback)
  | bare => exact .fail _

end ReadMoves

/-- Every operation of a host takes worlds to worlds in the relation. -/
structure HostMoves (R : W → W → Prop) (h : Host W P H C) : Prop where
  navigate : ∀ page visit, Moves R (h.navigate page visit)
  waitFor : ∀ page selector ms root, Moves R (h.waitFor page selector ms root)
  queryAll : ∀ page selector root, Moves R (h.queryAll page selector root)
  extract : ∀ page root selector attr, Moves R (h.extract page root selector attr)
  call : ∀ callback page items, Moves R (h.call callback page items)
  sleep : ∀ span w, R w (h.sleep span w)
  emit : ∀ e w, R w (h.emit e w)

namespace HostMoves
variable {R : W → W → Prop} [IsPreorder W R] {h : Host W P H C} (moves : HostMoves R h)
include moves

omit [IsPreorder W R] in
theorem reads : ReadMoves R h :=
  ⟨moves.waitFor, moves.queryAll, moves.extract, moves.sleep, moves.emit⟩

theorem navigateStep (visit : Visit) (state : ReplayState P H) :
    Moves R (navigateStep h visit state) := by
  refine .bind (moves.navigate _ _) fun _ => .bind (moves.reads.log _ _ _) fun _ => ?_
  split
  · exact .fail _
  · exact .pure _

theorem evalStep (callback : C) (state : ReplayState P H) : Moves R (evalStep h callback state) := by
  refine .bind (moves.call _ _ _) fun answer => ?_
  split
  · exact .fail _
  · exact .bind (.ofExcept _) fun _ => .bind (moves.reads.log _ _ _) fun _ => .pure _

theorem runStep (d : Defaults) (index : Nat) (s : Step C) (state : ReplayState P H) :
    Moves R (runStep h d Handler.standard index s state) := by
  cases s with
  | navigate visit => exact moves.reads.runStep_of_handler rfl (moves.navigateStep visit state) index
  | eval callback => exact moves.reads.runStep_of_handler rfl (moves.evalStep callback state) index
  | _ => exact moves.reads.runStep d index (fun _ => by simp) (fun _ => by simp) state

theorem runSteps (d : Defaults) (index : Nat) (steps : List (Step C)) (state : ReplayState P H) :
    Moves R (runSteps h d Handler.standard index steps state) := by
  induction steps generalizing index state with
  | nil => exact .pure _
  | cons s rest ih => exact .bind (moves.runStep d index s state) fun next => ih (index + 1) next

omit [IsPreorder W R] in
theorem bind (fields : Fields) : HostMoves R (h.bind fields) :=
  { moves with emit := fun _ w => moves.emit _ w }

theorem execute (d : Defaults) (steps : List (Step C)) (page : P) (runId : String) :
    Moves R (execute h d Handler.standard steps page runId) := by
  have bound := moves.bind [("run_id", .text runId)]
  refine .bind (bound.reads.log _ _ _) fun _ => .bind moves_time fun _ => ?_
  refine .bind (bound.runSteps d 0 steps _) fun final => ?_
  split
  · exact .bind (bound.reads.log _ _ _) fun _ => .fail _
  · exact .bind moves_time fun _ => .bind (bound.reads.log _ _ _) fun _ => .ofExcept _

end HostMoves

end Replay
end PageHarvest
