/-!
Ordered tables: association lists in which a key keeps the place where it was first put, whatever
is put under it later.
-/
namespace PageHarvest

/-- Entries in the order in which their keys first came. -/
abbrev Table (κ α : Type) := List (κ × α)

namespace Table
variable {κ α : Type}

/-- Puts `a` under `k`, in place when a key that counts as `k` is there and at the end otherwise. -/
def putBy (same : κ → κ → Bool) (k : κ) (a : α) : Table κ α → Table κ α
  | [] => [(k, a)]
  | (k', a') :: rest => if same k' k then (k', a) :: rest else (k', a') :: putBy same k a rest

variable [BEq κ]

/-- Puts `a` under `k`. -/
def put (k : κ) (a : α) (t : Table κ α) : Table κ α :=
  putBy (· == ·) k a t

def get? (t : Table κ α) (k : κ) : Option α :=
  (t.find? fun e => e.1 == k).map (·.2)

def has (t : Table κ α) (k : κ) : Bool :=
  t.any fun e => e.1 == k

/-- Puts every entry of `later` in turn. -/
def update (t later : Table κ α) : Table κ α :=
  later.foldl (fun t e => t.put e.1 e.2) t

/-- Puts `a` under `k` only when the key is not there yet. -/
def putNew (k : κ) (a : α) (t : Table κ α) : Table κ α :=
  if t.has k then t else t.put k a

/-- The table that entries build when put one after another. -/
def ofEntries (entries : List (κ × α)) : Table κ α :=
  update [] entries

end Table
end PageHarvest
