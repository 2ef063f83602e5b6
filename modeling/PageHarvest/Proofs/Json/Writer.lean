import PageHarvest.Json.Writer
import PageHarvest.Proofs.Failure

/-!
What can be written as JSON: keys that it has a string for, integers with no more digits than may be
written, no more levels than there is room for, and of all other kinds what can be shown.
-/
namespace PageHarvest

@[induction_eliminator]
theorem Value.induct {motive : Value → Prop} (null : motive .null) (bool : ∀ b, motive (.bool b))
    (int : ∀ n, motive (.int n)) (float : ∀ x, motive (.float x)) (text : ∀ s, motive (.text s))
    (bytes : ∀ bs, motive (.bytes bs)) (date : ∀ d, motive (.date d)) (moment : ∀ t, motive (.moment t))
    (list : ∀ items, (∀ v ∈ items, motive v) → motive (.list items))
    (tuple : ∀ items, (∀ v ∈ items, motive v) → motive (.tuple items))
    (set : ∀ items, (∀ v ∈ items, motive v) → motive (.set items))
    (map : ∀ m : Mapping, (∀ e ∈ m, motive e.1 ∧ motive e.2) → motive (.map m))
    (object : ∀ s, motive (.object s)) : ∀ v, motive v
  | .null => null
  | .bool b => bool b
  | .int n => int n
  | .float x => float x
  | .text s => text s
  | .bytes bs => bytes bs
  | .date d => date d
  | .moment t => moment t
  | .list items => list items fun v _ =>
    induct null bool int float text bytes date moment list tuple set map object v
  | .tuple items => tuple items fun v _ =>
    induct null bool int float text bytes date moment list tuple set map object v
  | .set items => set items fun v _ =>
    induct null bool int float text bytes date moment list tuple set map object v
  | .map m => map m fun (k, v) mem =>
    have _ := List.sizeOf_lt_of_mem mem
    ⟨induct null bool int float text bytes date moment list tuple set map object k,
      induct null bool int float text bytes date moment list tuple set map object v⟩
  | .object s => object s
termination_by v => v
decreasing_by
  iterate 3 decreasing_tactic
  all_goals
    simp only [Prod.mk.sizeOf_spec, Value.map.sizeOf_spec] at *
    omega

namespace Json

/-- Keys that there is a string for. -/
inductive KeyWritable : Value → Prop where
  | null : KeyWritable .null
  | bool (b) : KeyWritable (.bool b)
  | int {n : Int} (short : Text.isLong n = false) : KeyWritable (.int n)
  | float (x) : KeyWritable (.float x)
  | text (s) : KeyWritable (.text s)

/-- Values that JSON has no form for. -/
def Formless : Value → Prop
  | .bytes _ | .date _ | .moment _ | .set _ | .object _ => True
  | _ => False

variable [Stack]

/-- Values that can be written with room for so many levels. -/
inductive Writable : Nat → Value → Prop where
  | null {room} : Writable room .null
  | bool {room} (b) : Writable room (.bool b)
  | int {room} {n : Int} (short : Text.isLong n = false) : Writable room (.int n)
  | float {room} (x) : Writable room (.float x)
  | text {room} (s) : Writable room (.text s)
  | list {room items} (each : ∀ v ∈ items, Writable room v) : Writable (room + 1) (.list items)
  | tuple {room items} (each : ∀ v ∈ items, Writable room v) : Writable (room + 1) (.tuple items)
  | map {room} {m : Mapping} (keys : ∀ e ∈ m, KeyWritable e.1) (each : ∀ e ∈ m, Writable room e.2) :
      Writable (room + 1) (.map m)
  | shown {room v} (formless : Formless v) (shown : v.unshown? = none) : Writable room v

section
variable {room : Nat}

theorem writable_int_iff {n : Int} : Writable room (.int n) ↔ Text.isLong n = false := by
  constructor
  · intro writable
    cases writable with
    | int short => exact short
    | shown formless => cases formless
  · exact .int

theorem writable_list_iff {items : List Value} :
    Writable room (.list items) ↔ 0 < room ∧ ∀ v ∈ items, Writable (room - 1) v := by
  constructor
  · intro writable
    cases writable with
    | list each => exact ⟨Nat.succ_pos _, each⟩
    | shown formless => cases formless
  · rintro ⟨roomy, each⟩
    obtain ⟨left, rfl⟩ := Nat.exists_eq_add_one_of_ne_zero (Nat.ne_zero_of_lt roomy)
    exact .list each

theorem writable_tuple_iff {items : List Value} :
    Writable room (.tuple items) ↔ 0 < room ∧ ∀ v ∈ items, Writable (room - 1) v := by
  constructor
  · intro writable
    cases writable with
    | tuple each => exact ⟨Nat.succ_pos _, each⟩
    | shown formless => cases formless
  · rintro ⟨roomy, each⟩
    obtain ⟨left, rfl⟩ := Nat.exists_eq_add_one_of_ne_zero (Nat.ne_zero_of_lt roomy)
    exact .tuple each

theorem writable_map_iff {m : Mapping} :
    Writable room (.map m) ↔ 0 < room ∧ ∀ e ∈ m, KeyWritable e.1 ∧ Writable (room - 1) e.2 := by
  constructor
  · intro writable
    cases writable with
    | map keys each => exact ⟨Nat.succ_pos _, fun e mem => ⟨keys e mem, each e mem⟩⟩
    | shown formless => cases formless
  · rintro ⟨roomy, each⟩
    obtain ⟨left, rfl⟩ := Nat.exists_eq_add_one_of_ne_zero (Nat.ne_zero_of_lt roomy)
    exact .map (fun e mem => (each e mem).1) fun e mem => (each e mem).2

theorem writable_formless_iff {v : Value} (formless : Formless v) : Writable room v ↔ v.unshown? = none := by
  constructor
  · intro writable
    cases writable with
    | shown _ shown => exact shown
    | _ => cases formless
  · exact .shown formless

end

omit [Stack] in
theorem integer_ok_iff {n : Int} : (∃ s, integer n = .ok s) ↔ Text.isLong n = false := by
  unfold integer
  cases Text.isLong n <;> simp

omit [Stack] in
theorem keyText_ok_iff {k : Value} : (∃ s, keyText k = .ok s) ↔ KeyWritable k := by
  cases k with
  | int n =>
    rw [keyText, integer_ok_iff]
    exact ⟨.int, fun | .int short => short⟩
  | null => exact ⟨fun _ => .null, fun _ => ⟨_, rfl⟩⟩
  | bool b => exact ⟨fun _ => .bool b, fun _ => ⟨_, rfl⟩⟩
  | float x => exact ⟨fun _ => .float x, fun _ => ⟨_, rfl⟩⟩
  | text s => exact ⟨fun _ => .text s, fun _ => ⟨_, rfl⟩⟩
  | _ =>
    constructor
    · rintro ⟨s, written⟩
      cases written
    · exact nofun

theorem plainText_ok_iff {v : Value} : (∃ s, plainText v = .ok s) ↔ v.unshown? = none := by
  unfold plainText
  cases v.unshown? <;> simp

theorem enter_ok_iff {depth : Nat} : enter depth = .ok () ↔ depth < Stack.written := by
  unfold enter
  split <;> simp [*]

variable (layout : Nat → Layout)

theorem writeItems_eq_mapM (depth : Nat) (items : List Value) :
    writeItems layout depth items = items.mapM (write layout depth) := by
  induction items with
  | nil => rfl
  | cons v rest ih =>
    rw [writeItems, ih, List.mapM_cons]

/-- The text of an entry, its key before its value. -/
def entryText (depth : Nat) (e : Value × Value) : Except Failure String := do
  let key ← keyText e.1
  return string key ++ ": " ++ (← write layout depth e.2)

theorem writeEntries_eq_mapM (depth : Nat) (m : Mapping) :
    writeEntries layout depth m = m.mapM (entryText layout depth) := by
  induction m with
  | nil => rfl
  | cons e rest ih =>
    rw [writeEntries, ih, List.mapM_cons, entryText]
    cases keyText e.1 with
    | error f => rfl
    | ok key => cases write layout depth e.2 <;> rfl

theorem entryText_ok_iff {depth : Nat} {e : Value × Value} : (∃ s, entryText layout depth e = .ok s) ↔
    KeyWritable e.1 ∧ ∃ s, write layout depth e.2 = .ok s := by
  rw [← keyText_ok_iff]
  simp only [entryText, bind_ok_iff]
  constructor
  · rintro ⟨s, key, written, text, value, -⟩
    exact ⟨⟨key, written⟩, text, value⟩
  · rintro ⟨⟨key, written⟩, text, value⟩
    exact ⟨_, key, written, text, value, rfl⟩

/-- A collection is written when there is room for it and its parts are written. -/
theorem collection_ok_iff {depth : Nat} {parts : Except Failure (List String)} (left right : String) :
    (∃ s, (do
      enter depth
      return collection (layout depth) left right (← parts)) = .ok s) ↔
      depth < Stack.written ∧ ∃ texts, parts = .ok texts := by
  simp only [bind_ok_iff, ← enter_ok_iff]
  constructor
  · rintro ⟨s, _, entered, texts, done, -⟩
    exact ⟨entered, texts, done⟩
  · rintro ⟨entered, texts, done⟩
    exact ⟨_, (), entered, texts, done, rfl⟩

/-- At a depth there is room for the levels that are left. -/
theorem write_ok_iff (v : Value) (depth : Nat) :
    (∃ s, write layout depth v = .ok s) ↔ Writable (Stack.written - depth) v := by
  induction v generalizing depth with
  | null => exact ⟨fun _ => .null, fun _ => ⟨_, rfl⟩⟩
  | bool b => exact ⟨fun _ => .bool b, fun _ => ⟨_, rfl⟩⟩
  | float x => exact ⟨fun _ => .float x, fun _ => ⟨_, rfl⟩⟩
  | text s => exact ⟨fun _ => .text s, fun _ => ⟨_, rfl⟩⟩
  | int n => rw [write, integer_ok_iff, writable_int_iff]
  | list items ih =>
    rw [write, collection_ok_iff, writeItems_eq_mapM, mapM_succeeds_iff, writable_list_iff, Nat.sub_sub]
    exact and_congr Nat.sub_pos_iff_lt.symm (forall₂_congr fun v mem => ih v mem (depth + 1))
  | tuple items ih =>
    rw [write, collection_ok_iff, writeItems_eq_mapM, mapM_succeeds_iff, writable_tuple_iff, Nat.sub_sub]
    exact and_congr Nat.sub_pos_iff_lt.symm (forall₂_congr fun v mem => ih v mem (depth + 1))
  | map m ih =>
    rw [write, collection_ok_iff, writeEntries_eq_mapM, mapM_succeeds_iff, writable_map_iff, Nat.sub_sub]
    refine and_congr Nat.sub_pos_iff_lt.symm (forall₂_congr fun e mem => ?_)
    rw [entryText_ok_iff, (ih e mem).2]
  | bytes | date | moment | set | object =>
    exact map_succeeds_iff.trans (plainText_ok_iff.trans (writable_formless_iff (by exact trivial)).symm)

theorem line_ok_iff (v : Value) : (∃ s, line v = .ok s) ↔ Writable Stack.written v :=
  write_ok_iff _ v 0

end Json
end PageHarvest
