/-!
Wildcards in file names. A star stands for any characters, a question mark for one, and brackets for
one character out of a set; a bracket that is never closed stands for itself.
-/
namespace PageHarvest

/-- One sign of a name's pattern. -/
inductive Wildcard where
  | star
  | one
  /-- One character within the ranges, or within none of them. -/
  | among (negated : Bool) (ranges : List (Char × Char))
  | char (c : Char)
  deriving Repr, DecidableEq

namespace Wildcard

/-- Ranges in a set: `a-z`, or a character alone. -/
def ranges : List Char → List (Char × Char)
  | a :: '-' :: b :: rest => (a, b) :: ranges rest
  | a :: rest => (a, a) :: ranges rest
  | [] => []

/-- Splits at the closing bracket of a set. A bracket that comes first is a member. -/
def closed? : List Char → Option (List Char × List Char)
  | [] => none
  | first :: rest =>
    match rest.dropWhile (· != ']') with
    | [] => none
    | _ :: after => some (first :: rest.takeWhile (· != ']'), after)

theorem length_of_closed? {cs body after : List Char} (h : closed? cs = some (body, after)) :
    after.length < cs.length := by
  cases cs with
  | nil => simp [closed?] at h
  | cons first rest =>
    have shorter : (rest.dropWhile (· != ']')).length ≤ rest.length :=
      (List.dropWhile_sublist _).length_le
    simp only [closed?] at h
    split at h
    · simp at h
    · rename_i tail eq
      simp only [Option.some.injEq, Prod.mk.injEq] at h
      rw [eq] at shorter
      simp only [List.length_cons, ← h.2] at shorter ⊢
      omega

/-- The set after an opening bracket, and what follows it. -/
def set? : List Char → Option (Wildcard × List Char)
  | '!' :: rest => (closed? rest).map fun (body, after) => (among true (ranges body), after)
  | rest => (closed? rest).map fun (body, after) => (among false (ranges body), after)

theorem length_of_set? {cs after : List Char} {w : Wildcard} (h : set? cs = some (w, after)) :
    after.length < cs.length := by
  unfold set? at h
  split at h <;> simp only [Option.map_eq_some_iff, Prod.mk.injEq, Prod.exists] at h <;>
    obtain ⟨body, tail, closed, -, rfl⟩ := h <;> have := length_of_closed? closed
  · simp only [List.length_cons]
    omega
  · exact this

def signs (pattern : List Char) : List Wildcard :=
  match pattern with
  | [] => []
  | '*' :: rest => star :: signs rest
  | '?' :: rest => one :: signs rest
  | '[' :: rest =>
    match _h : set? rest with
    | some (set, after) => set :: signs after
    | none => char '[' :: signs rest
  | c :: rest => char c :: signs rest
termination_by pattern.length
decreasing_by
  all_goals simp_wf
  have := length_of_set? (by assumption)
  omega

def takes : Wildcard → Char → Bool
  | star, _ | one, _ => true
  | among negated ranges, c => (ranges.any fun r => r.1 ≤ c && c ≤ r.2) != negated
  | char a, c => a == c

def fits : List Wildcard → List Char → Bool
  | [], name => name.isEmpty
  | star :: signs, [] => fits signs []
  | star :: signs, c :: name => fits signs (c :: name) || fits (star :: signs) name
  | _ :: _, [] => false
  | sign :: signs, c :: name => sign.takes c && fits signs name
termination_by signs name => signs.length + name.length

end Wildcard
end PageHarvest
