import PageHarvest.Proofs.Data.Table
import PageHarvest.Proofs.Json.Writer
import PageHarvest.Replay.Host
import PageHarvest.Report.Logger

/-!
Trees of loggers by their leaves. Binding fields to a tree binds them to each of its leaves, and an event comes
to one entry at every leaf, from left to right, up to the first leaf that cannot take it. Which fields an entry
has is settled by that leaf's own history: names keep the order in which they first came, and of several values
the last one counts.
-/
namespace PageHarvest

/-- Fields as a call takes them, every name once. -/
def Fields.Distinct (fields : Fields) : Prop :=
  (fields.map (·.1)).Nodup

instance (fields : Fields) : Decidable fields.Distinct :=
  inferInstanceAs (Decidable (List.Nodup _))

/-- Where a leaf of a tree of loggers writes. -/
inductive Sink where
  | console
  | store
  deriving DecidableEq

/-- A leaf of a tree of loggers, with the fields that it carries. -/
structure Leaf where
  sink : Sink
  bound : Fields

/-- The type and the level of an event, where it has no fields of these names. -/
def Event.missing (e : Event) : Fields :=
  [("type", .text e.name), ("level", .text e.level.name)].filter fun f => !e.fields.has f.1

/-- What a sink gets for an event. Only a console adds the type and the level, and only if there are no fields of
these names; a log store has names for itself, which no field may have. -/
inductive Sink.Gets [Stack] (e : Event) : Sink → LogEntry → Prop where
  | console {text} (written : Json.line (e.fields ++ e.missing).value = .ok text) :
      Gets e .console (.line (e.name ++ " " ++ text))
  | store {text} (free : ∀ reserved ∈ storeNames, ¬ e.fields.has reserved.1)
      (written : Json.line e.fields.value = .ok text) :
      Gets e .store (.stored e.level (e.name ++ " " ++ text) (("event", .text e.name) :: e.fields))

/-- A sink takes events with fields that can be written. A log store takes none with a field of a name that it has
for itself. -/
structure Sink.Takes [Stack] (e : Event) (sink : Sink) : Prop where
  free : sink = .store → ∀ reserved ∈ storeNames, ¬ e.fields.has reserved.1
  writable : Json.Writable Stack.written e.fields.value

section
variable [Stack]

theorem Event.text_ok_iff {e : Event} {text : String} :
    e.text = .ok text ↔ ∃ fields, Json.line e.fields.value = .ok fields ∧ e.name ++ " " ++ fields = text := by
  simp [Event.text, bind_ok_iff, pure, Except.pure]

theorem Fields.writable_iff {fields : Fields} : Json.Writable Stack.written fields.value ↔
    ∀ f ∈ fields, Json.Writable (Stack.written - 1) f.2 := by
  have room : 0 < Stack.written := Nat.lt_of_lt_of_le Nat.two_pos Stack.two_le_written
  simp only [Fields.value, Json.writable_map_iff, List.forall_mem_map, room, true_and]
  exact forall₂_congr fun f mem => and_iff_right (.text f.1)

/-- Texts can be added to fields that can be written. -/
theorem Fields.writable_append_iff {payload added : Fields} (texts : ∀ f ∈ added, ∃ s, f.2 = .text s) :
    Json.Writable Stack.written (payload ++ added).value ↔ Json.Writable Stack.written payload.value := by
  rw [writable_iff, writable_iff, List.forall_mem_append]
  refine and_iff_left fun f mem => ?_
  obtain ⟨s, text⟩ := texts f mem
  rw [text]
  exact .text s

omit [Stack] in
theorem Event.missing_texts (e : Event) : ∀ f ∈ e.missing, ∃ s, f.2 = .text s := by
  intro f mem
  have given := List.mem_of_mem_filter mem
  simp only [List.mem_cons, List.not_mem_nil, or_false] at given
  rcases given with rfl | rfl
  · exact ⟨_, rfl⟩
  · exact ⟨_, rfl⟩

theorem Sink.takes_iff (e : Event) (sink : Sink) : sink.Takes e ↔ ∃ entry, sink.Gets e entry := by
  cases sink with
  | console =>
    constructor
    · rintro ⟨-, writable⟩
      obtain ⟨text, written⟩ := (Json.line_ok_iff _).mpr ((Fields.writable_append_iff e.missing_texts).mpr writable)
      exact ⟨_, .console written⟩
    · rintro ⟨_, ⟨written⟩⟩
      exact ⟨nofun, (Fields.writable_append_iff e.missing_texts).mp ((Json.line_ok_iff _).mp ⟨_, written⟩)⟩
  | store =>
    constructor
    · rintro ⟨free, writable⟩
      obtain ⟨text, written⟩ := (Json.line_ok_iff _).mpr writable
      exact ⟨_, .store (free rfl) written⟩
    · rintro ⟨_, ⟨⟩⟩
      rename_i free written
      exact ⟨fun _ => free, (Json.line_ok_iff _).mp ⟨_, written⟩⟩

end

/-- Entries that are asked for in turn, up to the first that there is none of. -/
def Written.inTurn : List (Except Failure LogEntry) → Written
  | [] => .nothing
  | outcome :: rest => (once outcome).andThen (inTurn rest)

namespace Written

theorem andThen_nothing (w : Written) : w.andThen .nothing = w := by
  obtain ⟨entries, failure⟩ := w
  cases failure <;> simp [andThen, nothing]

theorem andThen_assoc (a b c : Written) : (a.andThen b).andThen c = a.andThen (b.andThen c) := by
  obtain ⟨entries, failure⟩ := a
  cases failure with
  | some f => rfl
  | none =>
    obtain ⟨entries', failure'⟩ := b
    cases failure' <;> simp [andThen, List.append_assoc]

theorem inTurn_append (outcomes later : List (Except Failure LogEntry)) :
    inTurn (outcomes ++ later) = (inTurn outcomes).andThen (inTurn later) := by
  induction outcomes with
  | nil => rfl
  | cons outcome rest ih => rw [List.cons_append, inTurn, ih, inTurn, andThen_assoc]

theorem inTurn_of_ok {α : Type} {ask : α → Except Failure LogEntry} {asked : List α} {entries : List LogEntry}
    (all : List.Forall₂ (fun a entry => ask a = .ok entry) asked entries) (later : List (Except Failure LogEntry)) :
    inTurn (asked.map ask ++ later) = ⟨entries ++ (inTurn later).entries, (inTurn later).failure⟩ := by
  induction all with
  | nil => rfl
  | cons first _ ih =>
    rw [List.map_cons, first, List.cons_append, inTurn, ih]
    rfl

end Written

namespace Leaf

/-- The leaf alone as a tree. -/
def logger (leaf : Leaf) : Logger :=
  match leaf.sink with
  | .console => .console leaf.bound
  | .store => .store leaf.bound

def carry (fields : Fields) (leaf : Leaf) : Leaf :=
  { leaf with bound := leaf.bound.update fields }

/-- What the leaf's fields come to with further ones, which it is given one after another. -/
def payload (leaf : Leaf) (later : List Fields) : Fields :=
  Table.settled (leaf.bound ++ later.flatten)

/-- The event as it comes to the leaf after all that was bound, with the fields that it then has. -/
def event (binds : List Fields) (e : Event) (leaf : Leaf) : Event :=
  { e with fields := leaf.payload (binds ++ [e.fields]) }

section
variable [Stack] (e : Event)

def write (leaf : Leaf) : Except Failure LogEntry :=
  let merged : Event := { e with fields := leaf.bound.update e.fields }
  match leaf.sink with
  | .console => .line <$> merged.consoleLine
  | .store => merged.record

omit [Stack] in
/-- A console's defaults are put only where nothing is, and so they come last. -/
theorem putNew_eq_missing : (e.fields.putNew "type" (.text e.name)).putNew "level" (.text e.level.name) =
    e.fields ++ e.missing := by
  have level (v : Value) : Table.has (e.fields ++ if e.fields.has "type" then [] else [("type", v)]) "level" =
      e.fields.has "level" := by
    rw [Table.has, List.any_append]
    split <;> simp [Table.has]
  rw [Table.putNew_eq_append, Table.putNew_eq_append, level, List.append_assoc, Event.missing]
  cases type : e.fields.has "type" <;> cases level : e.fields.has "level" <;> simp [type, level]

theorem record_ok_iff {entry : LogEntry} : e.record = .ok entry ↔ Sink.store.Gets e entry := by
  unfold Event.record
  cases named : storeNames.find? fun reserved => e.fields.has reserved.1 with
  | some reserved =>
    refine ⟨nofun, fun gets => ?_⟩
    cases gets with
    | store free => exact absurd (List.find?_some named) (free reserved (List.mem_of_find?_eq_some named))
  | none =>
    have free : ∀ reserved ∈ storeNames, ¬ e.fields.has reserved.1 := List.find?_eq_none.mp named
    simp only [bind_ok_iff, Event.text_ok_iff]
    constructor
    · rintro ⟨_, ⟨text, written, rfl⟩, ⟨⟩⟩
      exact .store free written
    · rintro ⟨⟩
      rename_i text _ written
      exact ⟨_, ⟨text, written, rfl⟩, rfl⟩

theorem consoleLine_ok_iff {entry : LogEntry} :
    LogEntry.line <$> e.consoleLine = .ok entry ↔ Sink.console.Gets e entry := by
  rw [Event.consoleLine, putNew_eq_missing]
  refine map_ok_iff.trans ?_
  simp only [Event.text_ok_iff]
  constructor
  · rintro ⟨_, ⟨text, written, rfl⟩, rfl⟩
    exact .console written
  · rintro ⟨⟩
    rename_i text written
    exact ⟨_, ⟨text, written, rfl⟩, rfl⟩

theorem write_ok_iff {leaf : Leaf} {entry : LogEntry} :
    leaf.write e = .ok entry ↔ leaf.sink.Gets { e with fields := leaf.bound.update e.fields } entry := by
  obtain ⟨sink, bound⟩ := leaf
  cases sink with
  | console => exact consoleLine_ok_iff _
  | store => exact record_ok_iff _

end

/-- The leaf after each of these was bound to it in turn. -/
def after (binds : List Fields) (leaf : Leaf) : Leaf :=
  binds.foldl (fun leaf fields => leaf.carry fields) leaf

theorem after_eq {leaf : Leaf} (distinct : leaf.bound.Distinct) (binds : List Fields) :
    leaf.after binds = ⟨leaf.sink, leaf.payload binds⟩ := by
  have carried (before : List (String × Value)) : after binds ⟨leaf.sink, Table.settled before⟩ =
      ⟨leaf.sink, Table.settled (before ++ binds.flatten)⟩ := by
    induction binds generalizing before with
    | nil => rw [List.flatten_nil, List.append_nil, after, List.foldl_nil]
    | cons fields rest ih =>
      have step := ih (before ++ fields)
      rw [← Table.update_settled, List.append_assoc] at step
      exact step
  have now := carried leaf.bound
  rw [Table.settled_of_nodup distinct] at now
  exact now

end Leaf

namespace Logger
variable (fields : Fields) (e : Event)

mutual

/-- The leaves of a tree, from left to right. -/
def leaves : Logger → List Leaf
  | console bound => [⟨.console, bound⟩]
  | store bound => [⟨.store, bound⟩]
  | group members => leavesAll members

def leavesAll : List Logger → List Leaf
  | [] => []
  | l :: rest => leaves l ++ leavesAll rest

end

@[induction_eliminator]
theorem induct {motive : Logger → Prop} (console : ∀ bound, motive (.console bound))
    (store : ∀ bound, motive (.store bound))
    (group : ∀ members, (∀ l ∈ members, motive l) → motive (.group members)) : ∀ l, motive l
  | .console bound => console bound
  | .store bound => store bound
  | .group members => group members fun l _ => induct console store group l

theorem leavesAll_eq_flatMap (members : List Logger) : leavesAll members = members.flatMap leaves := by
  induction members with
  | nil => rfl
  | cons l rest ih => rw [leavesAll, ih, List.flatMap_cons]

theorem carryAll_eq_map (members : List Logger) : carryAll fields members = members.map (carry fields) := by
  induction members with
  | nil => rfl
  | cons l rest ih => rw [carryAll, ih, List.map_cons]

/-- What is bound to a tree is bound to each of its leaves. -/
theorem leaves_carry (l : Logger) : (l.carry fields).leaves = l.leaves.map (·.carry fields) := by
  induction l with
  | console bound => rfl
  | store bound => rfl
  | group members ih =>
    rw [carry, leaves, leaves, leavesAll_eq_flatMap, leavesAll_eq_flatMap, carryAll_eq_map, List.flatMap_map,
      List.map_flatMap]
    exact List.flatMap_congr ih

/-- An event goes to the leaves in turn. -/
theorem entries_eq_inTurn [Stack] (l : Logger) : l.entries e = .inTurn (l.leaves.map (·.write e)) := by
  induction l with
  | console bound => exact (Written.andThen_nothing _).symm
  | store bound => exact (Written.andThen_nothing _).symm
  | group members ih =>
    rw [entries, leaves, leavesAll_eq_flatMap]
    induction members with
    | nil => rfl
    | cons l rest among =>
      obtain ⟨first, others⟩ := List.forall_mem_cons.mp ih
      rw [entriesAll, first, among others, List.flatMap_cons, List.map_append, Written.inTurn_append]

theorem carry_carry {a : Fields} (distinct : a.Distinct) (b : Fields) (l : Logger) :
    (l.carry a).carry b = l.carry (a.update b) := by
  induction l with
  | console bound => exact congrArg console (Table.update_update bound distinct b)
  | store bound => exact congrArg store (Table.update_update bound distinct b)
  | group members ih =>
    simp only [carry, carryAll_eq_map, List.map_map]
    exact congrArg group (List.map_congr_left ih)

/-- A logger that carries fields writes what it would write if each event came with them. -/
theorem entries_carry [Stack] {fields : Fields} (distinct : fields.Distinct) (l : Logger) :
    (l.carry fields).entries e = l.entries { e with fields := fields.update e.fields } := by
  induction l with
  | console bound => rw [carry, entries, entries, Table.update_update bound distinct]
  | store bound => rw [carry, entries, entries, Table.update_update bound distinct]
  | group members ih =>
    rw [carry, entries, entries, carryAll_eq_map]
    induction members with
    | nil => rfl
    | cons l rest among =>
      obtain ⟨first, others⟩ := List.forall_mem_cons.mp ih
      rw [List.map_cons, entriesAll, entriesAll, first, among others]

theorem kind_carry (l : Logger) : (l.carry fields).kind = l.kind := by
  cases l <;> rfl

section
variable (call : String) {names : List String} {fields}

theorem refuse_free (free : ∀ name ∈ names, ¬ fields.has name) (l : Logger) :
    l.refuse call names fields = .ok () := by
  have none : (fields.find? fun f => names.contains f.1) = none := by
    rw [List.find?_eq_none]
    intro f mem reserved
    exact free f.1 (List.contains_iff_mem.mp reserved) (List.any_eq_true.mpr ⟨f, mem, beq_self_eq_true f.1⟩)
  rw [refuse, none]

theorem refuse_taken (taken : ∃ name ∈ names, fields.has name) (l : Logger) :
    ∃ name ∈ names, fields.has name ∧ l.refuse call names fields = .error (l.refusal call name) := by
  cases found : fields.find? fun f => names.contains f.1 with
  | none =>
    obtain ⟨name, reserved, has⟩ := taken
    obtain ⟨f, mem, same⟩ := List.any_eq_true.mp has
    cases beq_iff_eq.mp same
    exact absurd (List.contains_iff_mem.mpr reserved) (List.find?_eq_none.mp found f mem)
  | some f =>
    have reserved := List.find?_some found
    refine ⟨f.1, List.contains_iff_mem.mp reserved, ?_, ?_⟩
    · exact List.any_eq_true.mpr ⟨f, List.mem_of_find?_eq_some found, beq_self_eq_true f.1⟩
    · rw [refuse, found]

end

theorem bind_eq (l : Logger) : l.bind fields =
    if fields.has "self" then .error (l.refusal "bind" "self") else .ok (l.carry fields) := by
  split
  · rename_i taken
    obtain ⟨name, only, -, refused⟩ := refuse_taken "bind" ⟨"self", List.mem_singleton_self _, taken⟩ l
    cases List.mem_singleton.mp only
    rw [bind, refused]
    rfl
  · rename_i free
    rw [bind, refuse_free _ (List.forall_mem_singleton.mpr free)]
    rfl

/-- Binding some fields and then others binds both at once, with the later ones put after the earlier. -/
theorem bind_bind {a : Fields} (distinct : a.Distinct) (b : Fields) (l : Logger) :
    (do (← l.bind a).bind b) = l.bind (a.update b) := by
  rw [bind_eq, bind_eq, Table.has_update]
  cases a.has "self" with
  | true => rfl
  | false =>
    show (l.carry a).bind b = _
    rw [bind_eq, refusal, kind_carry, carry_carry distinct]
    rfl

/-- A tree binds fields as its leaves do, each by itself. -/
theorem bind_leaves {l l' : Logger} (bound : l.bind fields = .ok l') :
    l.leaves.mapM (fun leaf => leaf.logger.bind fields) = .ok (l'.leaves.map Leaf.logger) := by
  rw [bind_eq] at bound
  split at bound
  · cases bound
  · rename_i free
    cases bound
    have each : (fun leaf : Leaf => leaf.logger.bind fields) = fun leaf => .ok (leaf.carry fields).logger := by
      funext leaf
      obtain ⟨_ | _, _⟩ := leaf <;> exact (bind_eq _ _).trans (if_neg free)
    rw [leaves_carry, List.map_map, each]
    exact List.mapM_pure

/-- The logger that each of these was bound to in turn. -/
def derive (binds : List Fields) (l : Logger) : Except Failure Logger :=
  binds.foldlM (fun l fields => l.bind fields) l

theorem derive_cons (first : Fields) (binds : List Fields) (l : Logger) :
    l.derive (first :: binds) = (l.bind first >>= fun l => l.derive binds) := by
  rw [derive, List.foldlM_cons]
  rfl

theorem derive_ok_iff {binds : List Fields} {l : Logger} :
    (∃ l', l.derive binds = .ok l') ↔ ∀ fields ∈ binds, ¬ fields.has "self" := by
  induction binds generalizing l with
  | nil => exact ⟨nofun, fun _ => ⟨l, rfl⟩⟩
  | cons first rest ih =>
    rw [derive_cons, bind_eq, List.forall_mem_cons]
    split
    · rename_i taken
      exact ⟨nofun, fun free => absurd taken free.1⟩
    · rename_i free
      exact ⟨fun derived => ⟨free, ih.mp derived⟩, fun each => ih.mpr each.2⟩

theorem leaves_derive {binds : List Fields} {l l' : Logger} (derived : l.derive binds = .ok l') :
    l'.leaves = l.leaves.map (·.after binds) := by
  induction binds generalizing l with
  | nil =>
    cases derived
    exact (List.map_id _).symm
  | cons first rest ih =>
    rw [derive_cons, bind_eq] at derived
    split at derived
    · cases derived
    · rw [ih derived, leaves_carry, List.map_map]
      rfl

section
variable {binds : List Fields} {l l' : Logger} (derived : l.derive binds = .ok l')
  (distinct : ∀ leaf ∈ l.leaves, leaf.bound.Distinct)

include distinct in
theorem event_of_after {leaf : Leaf} (mem : leaf ∈ l.leaves) :
    { e with fields := (leaf.after binds).bound.update e.fields : Event } = leaf.event binds e := by
  rw [Leaf.after_eq (distinct leaf mem), Leaf.event, Leaf.payload, Table.update_settled, Leaf.payload,
    List.flatten_concat, List.append_assoc]

variable [Stack] (free : ∀ name ∈ ["self", "event"], ¬ e.fields.has name)
include derived distinct free

/-- Leaves that take the event get one entry each, and then the later ones get theirs. -/
theorem write_derived {before after : List Leaf} (split : l.leaves = before ++ after)
    (takes : ∀ leaf ∈ before, leaf.sink.Takes (leaf.event binds e)) :
    ∃ entries, List.Forall₂ (fun leaf => leaf.sink.Gets (leaf.event binds e)) before entries ∧
      l'.write e = ⟨entries ++ (Written.inTurn (after.map fun leaf => (leaf.after binds).write e)).entries,
        (Written.inTurn (after.map fun leaf => (leaf.after binds).write e)).failure⟩ := by
  have gets {leaf : Leaf} (mem : leaf ∈ before) (entry : LogEntry) :
      (leaf.after binds).write e = .ok entry ↔ leaf.sink.Gets (leaf.event binds e) entry := by
    have inside : leaf ∈ l.leaves := split ▸ List.mem_append_left after mem
    rw [Leaf.write_ok_iff, event_of_after e distinct inside, Leaf.after_eq (distinct leaf inside)]
  obtain ⟨entries, all⟩ := (mapM_succeeds_iff (g := fun leaf : Leaf => (leaf.after binds).write e)).mpr
    fun leaf mem => by simpa only [gets mem] using (leaf.sink.takes_iff _).mp (takes leaf mem)
  have each := mapM_ok_iff.mp all
  refine ⟨entries, ?_, ?_⟩
  · refine ((List.forall₂_and_left _ _).mpr ⟨fun leaf mem => mem, each⟩).imp ?_
    exact fun leaf entry both => (gets both.1 entry).mp both.2
  · rw [write, refuse_free _ free]
    show l'.entries e = _
    rw [entries_eq_inTurn, leaves_derive derived, split, List.map_map, List.map_append]
    exact Written.inTurn_of_ok each _

/-- The leaf that comes next gets nothing if it does not take the event, and the writing ends there. -/
theorem write_refused {before after : List Leaf} {leaf : Leaf} (split : l.leaves = before ++ leaf :: after)
    (takes : ∀ leaf ∈ before, leaf.sink.Takes (leaf.event binds e))
    (refuses : ¬ leaf.sink.Takes (leaf.event binds e)) :
    ∃ entries f, List.Forall₂ (fun leaf => leaf.sink.Gets (leaf.event binds e)) before entries ∧
      l'.write e = ⟨entries, some f⟩ := by
  obtain ⟨entries, gets, wrote⟩ := write_derived e derived distinct free split takes
  have inside : leaf ∈ l.leaves := split ▸ List.mem_append_right before List.mem_cons_self
  cases here : (leaf.after binds).write e with
  | error f =>
    refine ⟨entries, f, gets, ?_⟩
    rw [wrote, List.map_cons, here]
    exact congrArg (Written.mk · _) (List.append_nil entries)
  | ok entry =>
    rw [Leaf.write_ok_iff, event_of_after e distinct inside, Leaf.after_eq (distinct leaf inside)] at here
    exact absurd ((leaf.sink.takes_iff _).mpr ⟨entry, here⟩) refuses

end

end Logger

/-- The host with its events written by a logger. -/
def Host.writing [Stack] {W P H C : Type} (h : Host W P H C) (put : Written → W → W) (l : Logger) :
    Host W P H C :=
  { h with emit := fun e => put (l.entries e) }

/-- Fields that a run binds to its host are bound to the logger behind it, and so reach every leaf. -/
theorem Host.bind_writing [Stack] {W P H C : Type} (h : Host W P H C) (put : Written → W → W)
    (l : Logger) {fields : Fields} (distinct : fields.Distinct) :
    (h.writing put l).bind fields = h.writing put (l.carry fields) := by
  have same (e : Event) := Logger.entries_carry e distinct l
  simp only [Host.bind, Host.writing, same]

end PageHarvest
