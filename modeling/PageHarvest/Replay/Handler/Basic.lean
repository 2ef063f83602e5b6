import PageHarvest.Replay.Host

/-!
Handlers of steps. A handler accepts some steps, and for these it turns the state before the step
into the state after it.
-/
namespace PageHarvest

/-- The name is the one that reports use. The transition may come to no state, which the replay
refuses. -/
structure Handler (W P H C : Type) where
  name : String
  accept : Host W P H C → Defaults → Step C →
    Option (ReplayState P H → Act W (Option (ReplayState P H)))

def Handler.supports {W P H C : Type} (k : Handler W P H C) (h : Host W P H C) (d : Defaults)
    (s : Step C) : Bool :=
  (k.accept h d s).isSome

end PageHarvest
