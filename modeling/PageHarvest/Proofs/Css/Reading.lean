import PageHarvest.Css.Parser
import PageHarvest.Proofs.Failure

/-!
What selectors are refused with. A text that is no selector is malformed, and one that is may still ask for
what no document holds, or have the code of no character in it.
-/
namespace PageHarvest.Css

inductive Refusal : Failure → Prop where
  | malformed : Refusal malformed
  | noCharacter : Refusal noCharacter
  | unsupported (message : String) : Refusal (Cause.notSupported message)

theorem refused_malformed {α : Type} : FailsWith Refusal (.error malformed : Except Failure α) :=
  .error .malformed

theorem refused_selector (o : OpenList) : FailsWith Refusal o.selector := by
  unfold OpenList.selector
  split
  · exact .ok _
  · split
    · exact .ok _
    · exact refused_malformed

theorem refused_separate (o : OpenList) (c : Option Combinator) : FailsWith Refusal (o.separate c) := by
  unfold OpenList.separate
  repeat' split
  all_goals first | exact .ok _ | exact refused_malformed

theorem refused_test (o : OpenList) : FailsWith Refusal o.test := by
  refine (refused_selector o).bind fun s => ?_
  split
  all_goals exact .ok _

theorem refused_readFrom (o : OpenList) (outer : List OpenList) (ts : List Token) :
    FailsWith Refusal (readFrom o outer ts) := by
  fun_induction readFrom o outer ts
  case case1 => exact refused_selector _
  case case4 o rest around outer ih => exact (refused_test o).bind ih
  case case13 | case14 => exact .error (.unsupported _)
  case case21 o outer rest c ih => exact (refused_separate o c).bind ih
  case case22 =>
    refine .error ?_
    split
    · exact .malformed
    · exact .noCharacter
  all_goals first | assumption | exact refused_malformed

theorem refusal_of_read {text : String} {f : Failure} (refused : read text = .error f) : Refusal f :=
  refused_readFrom _ _ _ f refused

end PageHarvest.Css
