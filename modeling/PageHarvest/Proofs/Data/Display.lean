import PageHarvest.Data.Display

/-!
What can be shown. A collection can be when each part of it can with one level less, and there is room
for everything that has no parts.
-/
namespace PageHarvest.Value
variable {room : Nat}

theorem unshownWithin?_int (n : Int) : (int n).unshownWithin? (room + 1) =
    if Text.isLong n then some .longInteger else none := by
  rw [unshownWithin?]

theorem unshownAmong?_eq_none_iff {items : List Value} :
    unshownAmong? room items = none ↔ ∀ v ∈ items, v.unshownWithin? room = none := by
  induction items with
  | nil => simp [unshownAmong?]
  | cons v rest ih => simp [unshownAmong?, Option.or_eq_none_iff, ih]

theorem unshownPair?_eq_none_iff {m : Mapping} : unshownPair? room m = none ↔
    ∀ e ∈ m, e.1.unshownWithin? room = none ∧ e.2.unshownWithin? room = none := by
  induction m with
  | nil => simp [unshownPair?]
  | cons e rest ih => simp [unshownPair?, Option.or_eq_none_iff, ih]

section
variable [Stack]

theorem exists_shown : ∃ room, Stack.shown = room + 1 :=
  Nat.exists_eq_add_one_of_ne_zero (Nat.ne_zero_of_lt Stack.json_lt_shown)

@[simp]
theorem unshown?_null : null.unshown? = none := by
  obtain ⟨room, shown⟩ := exists_shown
  rw [unshown?, shown]
  rfl

@[simp]
theorem unshown?_text (s : String) : (text s).unshown? = none := by
  obtain ⟨room, shown⟩ := exists_shown
  rw [unshown?, shown]
  rfl

theorem unshown?_int (n : Int) : (int n).unshown? = if Text.isLong n then some .longInteger else none := by
  obtain ⟨room, shown⟩ := exists_shown
  rw [unshown?, shown, unshownWithin?_int]

end
end PageHarvest.Value
