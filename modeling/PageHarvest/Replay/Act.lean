import PageHarvest.Failure

/-!
Actions on a world. An action that fails leaves the world as it was at the failure, so that time and
requests spent before it are not lost.
-/
namespace PageHarvest

/-- An action on worlds of type `W`: it answers or fails, and the world goes on either way. -/
abbrev Act (W α : Type) := ExceptT Failure (StateM W) α

namespace Act
variable {W α β : Type}

def fail (f : Failure) : Act W α :=
  ExceptT.mk (pure (.error f))

/-- The outcome of a computation that needs no world. -/
def ofExcept (r : Except Failure α) : Act W α :=
  ExceptT.mk (pure r)

def runOn (a : Act W α) (w : W) : Except Failure α × W :=
  a.run.run w

/-- The outcome of an action as an answer; the action itself then never fails. -/
def outcome (a : Act W α) : Act W (Except Failure α) :=
  ExceptT.mk do return .ok (← a.run)

@[simp]
theorem runOn_pure (x : α) (w : W) : (pure x : Act W α).runOn w = (.ok x, w) := rfl

@[simp]
theorem runOn_fail (f : Failure) (w : W) : (fail f : Act W α).runOn w = (.error f, w) := rfl

@[simp]
theorem runOn_ofExcept (r : Except Failure α) (w : W) : (ofExcept r).runOn w = (r, w) := rfl

@[simp]
theorem runOn_get (w : W) : (get : Act W W).runOn w = (.ok w, w) := rfl

@[simp]
theorem runOn_set (v w : W) : (set v : Act W PUnit).runOn w = (.ok ⟨⟩, v) := rfl

@[simp]
theorem runOn_modify (f : W → W) (w : W) : (modify f : Act W PUnit).runOn w = (.ok ⟨⟩, f w) := rfl

@[simp]
theorem runOn_outcome (a : Act W α) (w : W) :
    (outcome a).runOn w = (.ok (a.runOn w).1, (a.runOn w).2) := rfl

theorem runOn_bind (a : Act W α) (f : α → Act W β) (w : W) :
    (a >>= f).runOn w = match a.runOn w with
      | (.ok x, w') => (f x).runOn w'
      | (.error e, w') => (.error e, w') := by
  simp only [runOn, ExceptT.run_bind, StateT.run_bind]
  rcases StateT.run a.run w with ⟨_ | _, _⟩ <;> rfl

theorem runOn_map (f : α → β) (a : Act W α) (w : W) :
    (f <$> a).runOn w = ((a.runOn w).1.map f, (a.runOn w).2) := by
  rw [map_eq_pure_bind (f := f) (x := a), runOn_bind]
  rcases a.runOn w with ⟨_ | _, _⟩ <;> rfl

end Act
end PageHarvest
