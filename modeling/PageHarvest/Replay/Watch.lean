import PageHarvest.Replay.Clock

/-!
Watching for something that may come up. It is looked for again and again, with sleep in between, and
once more at the deadline.
-/
namespace PageHarvest

/-- How to look for something once, and the clock by which it is looked for again. -/
structure Watch (W A : Type) extends Clock W where
  glance : Act W (Option A)

namespace Watch
variable {W A : Type}

/-- Looks up to `n` times, with sleeps of the interval that end at the deadline. -/
def poll (v : Watch W A) (interval deadline : Rat) (expired : Failure) : Nat → Act W A
  | 0 => Act.fail expired
  | n + 1 => do
    match ← v.glance with
    | some a => return a
    | none =>
      let remaining := v.precision.near (deadline - v.now (← get))
      if remaining ≤ 0 then Act.fail expired
      else
        v.rest (shorter interval remaining)
        poll v interval deadline expired n

/-- How many looks fit into a span, with as many again for rounding. -/
def rounds (interval span : Rat) : Nat :=
  (later span 0 / interval * 2 + 4).ceil.toNat

/-- Watches until a timeout has passed. -/
def await (v : Watch W A) (pollMs timeoutMs : Int) (expired : Failure) : Act W A := do
  let start := v.now (← get)
  let timeout ← Act.ofExcept (v.precision.seconds timeoutMs)
  let deadline := v.precision.near (start + timeout)
  let interval ← Act.ofExcept (v.precision.seconds (max pollMs 1))
  poll v interval deadline expired (rounds interval (deadline - start))

end Watch
end PageHarvest
