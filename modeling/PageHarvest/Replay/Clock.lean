import PageHarvest.Replay.Act

/-!
Time as rational seconds. A precision says which rationals a machine keeps, and every sum, difference
and product is rounded to it; the exact precision rounds nothing. A clock shows instants and lets time
pass, unless it is asked for too much at once.
-/
namespace PageHarvest

def later (a b : Rat) : Rat := if a ≤ b then b else a

def shorter (a b : Rat) : Rat := if a ≤ b then a else b

theorem shorter_le_left (a b : Rat) : shorter a b ≤ a := by
  unfold shorter
  split
  · exact Rat.le_refl
  next more => exact Rat.le_of_lt (Rat.not_le.mp more)

theorem shorter_le_right (a b : Rat) : shorter a b ≤ b := by
  unfold shorter
  split
  · assumption
  · exact Rat.le_refl

theorem shorter_nonneg {a b : Rat} (left : 0 ≤ a) (right : 0 ≤ b) : 0 ≤ shorter a b := by
  unfold shorter
  split
  · exact left
  · exact right

/-- Rounds a number to one that is kept; `none` when it is out of range. -/
structure Precision where
  keep : Rat → Option Rat

namespace Precision

/-- All rationals. -/
def exact : Precision := ⟨some⟩

/-- The binary format of 53 significant bits. -/
def double : Precision := ⟨fun q => (Binary64.ofRat q).toRat?⟩

/-- A sum or difference of instants near each other, which stays in range. -/
def near (p : Precision) (q : Rat) : Rat :=
  (p.keep q).getD q

def seconds (p : Precision) (ms : Int) : Except Failure Rat :=
  match p.keep ms with
  | none => .error (Cause.overflow "int too large to convert to float")
  | some x => .ok (p.near (x / 1000))

def milliseconds (p : Precision) (s : Rat) : Except Failure Rat :=
  match p.keep (s * 1000) with
  | none => .error (Cause.overflow "cannot convert float infinity to integer")
  | some x => .ok x

/-- Whole milliseconds between two instants, cut off toward zero. -/
def elapsedMs (p : Precision) (since now : Rat) : Int :=
  let ms := p.near (p.near (now - since) * 1000)
  if ms < 0 then ms.ceil else ms.floor

end Precision

/-- A clock of a world. -/
structure Clock (W : Type) where
  precision : Precision
  now : W → Rat
  sleep : Rat → W → W
  /-- The longest sleep that can be asked for, if there is one. -/
  longestSleep : Option Rat := none

namespace Clock
variable {W : Type}

/-- Whether a sleep is too long to be asked for. -/
def refuses (c : Clock W) (span : Rat) : Bool :=
  c.longestSleep.any (· < span)

def tooLong : Failure :=
  Cause.overflow "timestamp too large to convert to C _PyTime_t"

/-- Sleeps, if the sleep is not too long. -/
def rest (c : Clock W) (span : Rat) : Act W Unit :=
  if c.refuses span then Act.fail tooLong else modify (c.sleep span)

/-- The same clock in larger worlds. -/
def within {V : Type} (c : Clock W) (world : V → W) (change : (W → W) → V → V) : Clock V where
  precision := c.precision
  now v := c.now (world v)
  sleep span := change (c.sleep span)
  longestSleep := c.longestSleep

theorem rest_of_refuses {c : Clock W} {span : Rat} (refused : c.refuses span = true) :
    c.rest span = Act.fail tooLong := by
  rw [rest, if_pos refused]

theorem rest_of_takes {c : Clock W} {span : Rat} (taken : c.refuses span = false) :
    c.rest span = modify (c.sleep span) := by
  rw [rest, if_neg (Bool.eq_false_iff.mp taken)]

/-- A sleep that is no longer than one that can be asked for can be asked for. -/
theorem takes_of_le {c : Clock W} {span longer : Rat} (taken : c.refuses longer = false)
    (le : span ≤ longer) : c.refuses span = false := by
  unfold refuses at taken ⊢
  cases limit : c.longestSleep with
  | none => rfl
  | some longest =>
    rw [limit, Option.any_some, decide_eq_false_iff_not, Rat.not_lt] at taken
    rw [Option.any_some, decide_eq_false_iff_not, Rat.not_lt]
    exact Rat.le_trans le taken

/-- Whoever looks for something again and again can sleep in between: the interval, as long as the clock can
tell it, is not too long. -/
def Paces (c : Clock W) (pollMs : Int) : Prop :=
  ∀ interval, c.precision.seconds (max pollMs 1) = .ok interval → c.refuses interval = false

end Clock
end PageHarvest
