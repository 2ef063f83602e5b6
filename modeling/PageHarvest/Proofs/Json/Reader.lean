import Mathlib.Data.List.Induction
import Mathlib.Data.List.TakeWhile
import PageHarvest.Json.Reader
import PageHarvest.Proofs.Data.Display
import PageHarvest.Proofs.Data.Table
import PageHarvest.Proofs.Failure

/-!
What JSON can say. Whatever text is read, the keys of its mappings are texts, its integers have no
more digits than may be written, and it has no more levels than there was room for. So it can be shown.
-/
namespace PageHarvest

namespace Binary64

theorem digitsToNat_append (ds : List Char) (d : Char) :
    digitsToNat (ds ++ [d]) = digitsToNat ds * 10 + (d.toNat - 48) := by
  simp [digitsToNat]

theorem digitsToNat_lt {ds : List Char} (digits : ∀ d ∈ ds, d.isDigit = true) :
    digitsToNat ds < Nat.pow 10 ds.length := by
  induction ds using List.reverseRecOn with
  | nil => exact Nat.one_pos
  | append_singleton ds d ih =>
    have before := ih fun c mem => digits c (List.mem_append_left _ mem)
    have last := digits d (List.mem_append_right _ (List.mem_singleton_self d))
    have small : d.toNat - 48 < 10 := by
      simp only [Char.isDigit, Bool.and_eq_true, decide_eq_true_eq] at last
      have top : d.toNat ≤ 57 := UInt32.le_iff_toNat_le.mp last.2
      omega
    rw [digitsToNat_append, List.length_append, List.length_singleton, Nat.pow_eq, Nat.pow_succ]
    rw [Nat.pow_eq] at before
    omega

end Binary64

namespace Json

/-- Values that a text can stand for which is read with room for so many levels. -/
inductive Expressible : Nat → Value → Prop where
  | null {room} : Expressible room .null
  | bool {room} (b) : Expressible room (.bool b)
  | int {room} {n : Int} (short : Text.isLong n = false) : Expressible room (.int n)
  | float {room} (x) : Expressible room (.float x)
  | text {room} (s) : Expressible room (.text s)
  | list {room items} (each : ∀ v ∈ items, Expressible room v) : Expressible (room + 1) (.list items)
  | map {room} {m : Mapping} (named : ∀ e ∈ m, ∃ k, e.1 = .text k) (each : ∀ e ∈ m, Expressible room e.2) :
      Expressible (room + 1) (.map m)

/-! Numbers and words -/

theorem isDigit_of_wholePart {cs : List Char} : ∀ d ∈ wholePart cs, d.isDigit = true := by
  intro d mem
  unfold wholePart at mem
  split at mem
  · cases List.mem_singleton.mp mem
    rfl
  · exact List.mem_takeWhile_imp mem

theorem isLong_of_digits {ds : List Char} (digits : ∀ d ∈ ds, d.isDigit = true)
    (few : ds.length ≤ Text.mostDigits) {n : Int} (value : n.natAbs = Binary64.digitsToNat ds) :
    Text.isLong n = false := by
  have bound := Nat.lt_of_lt_of_le (Binary64.digitsToNat_lt digits)
    (Nat.pow_le_pow_right (by decide) few)
  simp [Text.isLong, value, bound]

theorem expressible_of_number {c c' : Cursor} {v : Value} (read : number c = .ok (v, c')) (room : Nat) :
    Expressible room v := by
  unfold number at read
  extract_lets negative body whole afterWhole fraction fractionLength n at read
  split at read
  · cases read
  · dsimp only at read
    split at read
    · cases read
      exact .float _
    · split at read
      · cases read
      next few =>
        cases read
        refine .int (@isLong_of_digits whole isDigit_of_wholePart (Nat.not_lt.mp few) _ ?_)
        split
        · exact Int.natAbs_neg _
        · rfl

theorem expressible_of_scalar {c c' : Cursor} {v : Value} (read : scalar c = .ok (v, c')) (room : Nat) :
    Expressible room v := by
  unfold scalar at read
  split at read
  next word v' found =>
    cases read
    have listed : (word, v) ∈ words := List.mem_of_find?_eq_some found
    simp only [words, List.mem_cons, Prod.mk.injEq, List.not_mem_nil, or_false] at listed
    rcases listed with ⟨-, rfl⟩ | ⟨-, rfl⟩ | ⟨-, rfl⟩ | ⟨-, rfl⟩ | ⟨-, rfl⟩ | ⟨-, rfl⟩
    · exact .null
    · exact .bool true
    · exact .bool false
    · exact .float _
    · exact .float _
    · exact .float _
  · exact expressible_of_number read room

/-! Lists and mappings -/

/-- What the entries of a mapping have to be. -/
def EntriesExpressible (room : Nat) (m : Mapping) : Prop :=
  ∀ e ∈ m, (∃ k, e.1 = .text k) ∧ Expressible room e.2

theorem EntriesExpressible.map {room : Nat} {m : Mapping} (entries : EntriesExpressible room m) :
    Expressible (room + 1) (.map m) :=
  .map (fun e mem => (entries e mem).1) fun e mem => (entries e mem).2

theorem EntriesExpressible.put {room : Nat} {m : Mapping} (entries : EntriesExpressible room m) (k : String)
    {v : Value} (given : Expressible room v) : EntriesExpressible room (m.put (.text k) v) :=
  Table.forall_putBy entries ⟨⟨k, rfl⟩, given⟩ fun e mem => ⟨(entries e mem).1, given⟩

/-- Within a bound, what is read is expressible if what was read before it is. -/
structure ReadsExpressible (bound : Nat) : Prop where
  value {room c c' v} : value bound room c = .ok (v, c') → Expressible room v
  items {room done c c' v} : (∀ i ∈ done, Expressible room i) → items bound room done c = .ok (v, c') →
    Expressible (room + 1) v
  entries {room done c c' v} : EntriesExpressible room done → entries bound room done c = .ok (v, c') →
    Expressible (room + 1) v

theorem readsExpressible (bound : Nat) : ReadsExpressible bound := by
  induction bound with
  | zero => exact ⟨nofun, nofun, nofun⟩
  | succ bound ih =>
    constructor
    case value =>
      intro room c c' v read
      unfold Json.value at read
      split at read
      · obtain ⟨⟨s, c₁⟩, -, done⟩ := bind_ok_iff.mp read
        cases done
        exact .text s
      · split at read
        · cases read
        · dsimp only at read
          split at read
          · cases read
            exact .map (List.forall_mem_nil _) (List.forall_mem_nil _)
          · exact ih.entries (List.forall_mem_nil _) read
      · split at read
        · cases read
        · dsimp only at read
          split at read
          · cases read
            exact .list (List.forall_mem_nil _)
          · exact ih.items (List.forall_mem_nil _) read
      · exact expressible_of_scalar read room
    case items =>
      intro room done c c' v before read
      unfold Json.items at read
      obtain ⟨⟨i, c₁⟩, first, rest⟩ := bind_ok_iff.mp read
      have each := List.forall_mem_cons.mpr ⟨ih.value first, before⟩
      dsimp only at rest
      split at rest
      · cases rest
        exact .list fun u mem => each u (List.mem_reverse.mp mem)
      · exact ih.items each rest
      · cases rest
    case entries =>
      intro room done c c' v before read
      unfold Json.entries at read
      split at read
      · obtain ⟨⟨k, c₁⟩, -, read⟩ := bind_ok_iff.mp read
        dsimp only at read
        split at read
        · obtain ⟨⟨u, c₂⟩, given, read⟩ := bind_ok_iff.mp read
          have grown := before.put k (ih.value given)
          dsimp only at read
          split at read
          · cases read
            exact grown.map
          · exact ih.entries grown read
          · cases read
        · cases read
      · cases read

theorem expressible_of_read [Stack] {text : List Char} {v : Value} (done : read text = .ok v) :
    Expressible Stack.json v := by
  unfold read at done
  split at done
  · cases done
  · obtain ⟨⟨u, c⟩, first, done⟩ := bind_ok_iff.mp done
    dsimp only at done
    split at done
    · cases done
      exact (readsExpressible _).value first
    · cases done

/-- With more room than it was read with, a value can be shown. -/
theorem Expressible.unshownWithin?_eq_none {room more : Nat} {v : Value} (expressible : Expressible room v)
    (further : room < more) : v.unshownWithin? more = none := by
  induction expressible generalizing more with
  | null | bool | float | text =>
    obtain ⟨left, rfl⟩ := Nat.exists_eq_add_of_lt further
    rfl
  | @int room n short =>
    obtain ⟨left, rfl⟩ := Nat.exists_eq_add_of_lt further
    rw [Value.unshownWithin?_int, short]
    rfl
  | @list room items _ shown =>
    obtain ⟨left, rfl⟩ := Nat.exists_eq_add_of_lt further
    exact Value.unshownAmong?_eq_none_iff.mpr fun v mem => shown v mem (by omega)
  | @map room m named _ shown =>
    obtain ⟨left, rfl⟩ := Nat.exists_eq_add_of_lt further
    refine Value.unshownPair?_eq_none_iff.mpr fun e mem => ⟨?_, shown e mem (by omega)⟩
    obtain ⟨k, text⟩ := named e mem
    obtain ⟨more, same⟩ := Nat.exists_eq_add_of_lt (show room < room + 1 + left by omega)
    rw [text, same]
    rfl

end Json
end PageHarvest
