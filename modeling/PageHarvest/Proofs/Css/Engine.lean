import PageHarvest.Proofs.Css.Reading
import PageHarvest.Proofs.Css.Renumbering

/-!
What can be asked of an engine: that it picks elements below a place only, that the numbers of elements
mean nothing to it, and that a selector which it does not read is no timeout. The engine of the
selectors here does all of it.
-/
namespace PageHarvest

/-- An outcome that is no timeout. -/
def Prompt {α : Type} (r : Except Failure α) : Prop :=
  ∀ f, r = .error f → f.cause.isTimeout = false

namespace Css.Engine
open Html (Place)

/-- What is picked for a place are elements below it. -/
def PicksBelow (engine : Engine) : Prop :=
  ∀ ⦃text pick⦄, engine text = .ok pick → ∀ p, ∀ q ∈ pick p, q ∈ p.descendants

/-- The same elements are picked when all of them are numbered otherwise. -/
def IgnoresNumbers (engine : Engine) : Prop :=
  ∀ ⦃text pick⦄, engine text = .ok pick → ∀ ⦃f : Nat → Nat⦄, Function.Injective f → ∀ p,
    pick (p.renumber f) = (pick p).map (Place.renumber f)

/-- A selector that cannot be read is known as such at once. -/
def ReadsPromptly (engine : Engine) : Prop :=
  ∀ text, Prompt (engine text)

end Css.Engine

namespace Css

theorem engine_ok {text : String} {pick : Html.Place → List Html.Place} (done : engine text = .ok pick) :
    ∃ s, read text = .ok s ∧ select s = pick :=
  map_ok_iff.mp done

theorem engine_picksBelow : engine.PicksBelow := by
  intro text pick done p q mem
  obtain ⟨s, -, rfl⟩ := engine_ok done
  exact (List.mem_filter.mp mem).1

theorem engine_ignoresNumbers : engine.IgnoresNumbers := by
  intro text pick done f apart p
  obtain ⟨s, -, rfl⟩ := engine_ok done
  exact select_renumber apart s p

theorem engine_readsPromptly : engine.ReadsPromptly := by
  intro text f refused
  cases refusal_of_read (map_error_iff.mp refused) with
  | malformed | noCharacter => rfl
  | unsupported _ => rfl

end Css
end PageHarvest
