import Mathlib.Data.List.GetD
import PageHarvest.Proofs.Report.Carrying
import PageHarvest.Replay.Act

/-!
Loggers whose fields are tables in a heap. A logger that binds fields, or that writes an event, first copies its
table and then puts the fields into the copy. A table that a logger holds is thus never changed, and so loggers
that were derived from one another, or that share a table, stay out of each other's way.
-/
namespace PageHarvest

/-- Tables of fields by their place. -/
abbrev Heap := List Fields

namespace Heap

/-- The table at a place, which is there for every place that a logger holds. -/
def table (heap : Heap) (place : Nat) : Fields :=
  heap.getD place []

/-- Makes a new table with the fields of the one at `place`. -/
def copy (place : Nat) : Act Heap Nat := do
  let heap ← get
  set (heap ++ [heap.table place])
  return heap.length

def change (place : Nat) (f : Fields → Fields) : Act Heap Unit :=
  modify (·.modify place f)

def load (place : Nat) : Act Heap Fields :=
  return (← get).table place

/-- Makes a new table with the fields of the one at `place` and these. -/
def merge (place : Nat) (fields : Fields) : Act Heap Nat := do
  let merged ← copy place
  change merged (·.update fields)
  return merged

end Heap

/-- Trees of loggers that hold their fields by place. -/
inductive Held where
  | leaf (sink : Sink) (place : Nat)
  | group (members : List Held)

namespace Held
open Heap

mutual

/-- The logger that is held, with the fields that its tables have now. -/
def read (heap : Heap) : Held → Logger
  | leaf sink place => (⟨sink, heap.table place⟩ : Leaf).logger
  | group members => .group (readAll heap members)

def readAll (heap : Heap) : List Held → List Logger
  | [] => []
  | h :: rest => read heap h :: readAll heap rest

end

mutual

/-- The tables of the logger are there. -/
def Sound (heap : Heap) : Held → Prop
  | leaf _ place => place < heap.length
  | group members => SoundAll heap members

def SoundAll (heap : Heap) : List Held → Prop
  | [] => True
  | h :: rest => Sound heap h ∧ SoundAll heap rest

end

mutual

def carry (fields : Fields) : Held → Act Heap Held
  | leaf sink place => return leaf sink (← merge place fields)
  | group members => return group (← carryAll fields members)

def carryAll (fields : Fields) : List Held → Act Heap (List Held)
  | [] => return []
  | h :: rest => do
    let carried ← carry fields h
    return carried :: (← carryAll fields rest)

end

def bind (fields : Fields) (h : Held) : Act Heap Held := do
  Act.ofExcept ((h.read (← get)).refuse "bind" ["self"] fields)
  h.carry fields

section
variable [Stack]

mutual

def entries (e : Event) : Held → Act Heap Written
  | leaf .console place => do
    let payload ← merge place e.fields
    change payload (·.putNew "type" (.text e.name))
    change payload (·.putNew "level" (.text e.level.name))
    return .once (.line <$> { e with fields := ← load payload : Event }.text)
  | leaf .store place => do
    let payload ← merge place e.fields
    return .once { e with fields := ← load payload : Event }.record
  | group members => entriesAll e members

def entriesAll (e : Event) : List Held → Act Heap Written
  | [] => return .nothing
  | h :: rest => do
    let first ← entries e h
    match first.failure with
    | some _ => return first
    | none => return first.andThen (← entriesAll e rest)

end

def write (e : Event) (h : Held) : Act Heap Written := do
  match (h.read (← get)).refuse e.level.name ["self", "event"] e.fields with
  | .error f => return ⟨[], some f⟩
  | .ok _ => h.entries e

end

@[induction_eliminator]
theorem induct {motive : Held → Prop} (leaf : ∀ sink place, motive (.leaf sink place))
    (group : ∀ members, (∀ h ∈ members, motive h) → motive (.group members)) : ∀ h, motive h
  | .leaf sink place => leaf sink place
  | .group members => group members fun h _ => induct leaf group h

end Held

section
variable {heap heap' : Heap}

theorem Heap.table_of_prefix {place : Nat} (grown : heap <+: heap') (inside : place < heap.length) :
    heap'.table place = heap.table place := by
  obtain ⟨more, rfl⟩ := grown
  exact List.getD_append _ _ _ _ inside

theorem Heap.table_last (fields : Fields) : Heap.table (heap ++ [fields]) heap.length = fields := by
  simp [Heap.table]

theorem Heap.change_last (fields : Fields) (f : Fields → Fields) :
    (Heap.change heap.length f).runOn (heap ++ [fields]) = (.ok ⟨⟩, heap ++ [f fields]) :=
  congrArg (Except.ok PUnit.unit, ·) (List.modifyTailIdx_add (List.modifyHead f) 0 heap [fields])

theorem Heap.merge_runOn (place : Nat) (fields : Fields) :
    (Heap.merge place fields).runOn heap =
      (.ok heap.length, heap ++ [(heap.table place).update fields]) := by
  have copied : (Heap.copy place).runOn heap = (.ok heap.length, heap ++ [heap.table place]) := rfl
  rw [Heap.merge, Act.runOn_bind, copied]
  dsimp only
  rw [Act.runOn_bind, Heap.change_last]
  rfl

theorem Heap.load_last (fields : Fields) :
    (Heap.load heap.length).runOn (heap ++ [fields]) = (.ok fields, heap ++ [fields]) := by
  rw [Heap.load, Act.runOn_bind, Act.runOn_get]
  dsimp only
  rw [Heap.table_last, Act.runOn_pure]

namespace Held

theorem readAll_eq_map (members : List Held) : readAll heap members = members.map (read heap) := by
  induction members with
  | nil => rfl
  | cons h rest ih => rw [readAll, ih, List.map_cons]

theorem soundAll_iff {members : List Held} : SoundAll heap members ↔ ∀ h ∈ members, h.Sound heap := by
  induction members with
  | nil => exact ⟨nofun, fun _ => trivial⟩
  | cons h rest ih => rw [SoundAll, ih, List.forall_mem_cons]

theorem Sound.mono {h : Held} (sound : h.Sound heap) (grown : heap <+: heap') : h.Sound heap' := by
  induction h with
  | leaf sink place => exact Nat.lt_of_lt_of_le sound grown.length_le
  | group members ih =>
    rw [Sound, soundAll_iff] at sound ⊢
    exact fun h mem => ih h mem (sound h mem)

/-- New tables are nothing to a logger that is held already. -/
theorem read_of_prefix {h : Held} (sound : h.Sound heap) (grown : heap <+: heap') :
    h.read heap' = h.read heap := by
  induction h with
  | leaf sink place => rw [read, read, Heap.table_of_prefix grown sound]
  | group members ih =>
    rw [Sound, soundAll_iff] at sound
    rw [read, read, readAll_eq_map, readAll_eq_map]
    exact congrArg Logger.group (List.map_congr_left fun h mem => ih h mem (sound h mem))

theorem soundAll_mono {members : List Held} (sound : SoundAll heap members) (grown : heap <+: heap') :
    SoundAll heap' members :=
  soundAll_iff.mpr fun h mem => (soundAll_iff.mp sound h mem).mono grown

theorem readAll_of_prefix {members : List Held} (sound : SoundAll heap members) (grown : heap <+: heap') :
    readAll heap' members = readAll heap members := by
  rw [readAll_eq_map, readAll_eq_map]
  exact List.map_congr_left fun h mem => read_of_prefix (soundAll_iff.mp sound h mem) grown

/-- Binding makes new tables only, and what comes of it reads as what comes of the logger as it reads. -/
def Carries (fields : Fields) (h : Held) : Prop :=
  ∀ heap, h.Sound heap → ∃ h' heap', (h.carry fields).runOn heap = (.ok h', heap') ∧ heap <+: heap' ∧
    h'.Sound heap' ∧ h'.read heap' = (h.read heap).carry fields

/-- Of several loggers, those that are bound already keep their tables while the others are bound. -/
theorem carryAll_runOn {fields : Fields} {members : List Held} (each : ∀ h ∈ members, h.Carries fields)
    (sound : SoundAll heap members) : ∃ members' heap',
      (carryAll fields members).runOn heap = (.ok members', heap') ∧ heap <+: heap' ∧
        SoundAll heap' members' ∧ readAll heap' members' = Logger.carryAll fields (readAll heap members) := by
  induction members generalizing heap with
  | nil => exact ⟨[], heap, rfl, List.prefix_rfl, trivial, rfl⟩
  | cons h rest ih =>
    obtain ⟨first, others⟩ := List.forall_mem_cons.mp each
    obtain ⟨h', middle, run, grown, there, reads⟩ := first heap sound.1
    obtain ⟨rest', heap', run', grown', there', reads'⟩ := ih others (soundAll_mono sound.2 grown)
    refine ⟨h' :: rest', heap', ?_, grown.trans grown', ⟨there.mono grown', there'⟩, ?_⟩
    · rw [carryAll, Act.runOn_bind, run]
      dsimp only
      rw [Act.runOn_bind, run']
      rfl
    · rw [readAll, read_of_prefix there grown', reads, reads', readAll_of_prefix sound.2 grown]
      rfl

theorem carries (fields : Fields) (h : Held) : h.Carries fields := by
  induction h with
  | leaf sink place =>
    intro heap sound
    refine ⟨.leaf sink heap.length, heap ++ [(heap.table place).update fields], ?_,
      List.prefix_append _ _, ?_, ?_⟩
    · rw [carry, Act.runOn_bind, Heap.merge_runOn]
      rfl
    · simp [Sound]
    · rw [read, Heap.table_last]
      cases sink <;> rfl
  | group members ih =>
    intro heap sound
    obtain ⟨members', heap', run, grown, there, reads⟩ := carryAll_runOn ih sound
    refine ⟨.group members', heap', ?_, grown, there, ?_⟩
    · rw [carry, Act.runOn_bind, run]
      rfl
    · rw [read, reads]
      rfl

section
variable [Stack]

/-- Writing makes new tables only, and what is written is what the logger as it reads writes. -/
def Writes (e : Event) (h : Held) : Prop :=
  ∀ heap, h.Sound heap → ∃ heap',
    (h.entries e).runOn heap = (.ok ((h.read heap).entries e), heap') ∧ heap <+: heap'

theorem entriesAll_runOn {e : Event} {members : List Held} (each : ∀ h ∈ members, h.Writes e)
    (sound : SoundAll heap members) : ∃ heap',
      (entriesAll e members).runOn heap = (.ok (Logger.entriesAll e (readAll heap members)), heap') ∧
        heap <+: heap' := by
  induction members generalizing heap with
  | nil => exact ⟨heap, rfl, List.prefix_rfl⟩
  | cons h rest ih =>
    obtain ⟨first, others⟩ := List.forall_mem_cons.mp each
    obtain ⟨middle, run, grown⟩ := first heap sound.1
    rw [entriesAll, Act.runOn_bind, run, readAll, Logger.entriesAll]
    dsimp only
    cases ended : ((h.read heap).entries e).failure with
    | some f =>
      refine ⟨middle, ?_, grown⟩
      rw [Written.andThen, ended]
      rfl
    | none =>
      obtain ⟨heap', run', grown'⟩ := ih others (soundAll_mono sound.2 grown)
      refine ⟨heap', ?_, grown.trans grown'⟩
      dsimp only
      rw [Act.runOn_bind, run', readAll_of_prefix sound.2 grown]
      rfl

theorem writes (e : Event) (h : Held) : h.Writes e := by
  induction h with
  | leaf sink place =>
    intro heap _
    cases sink with
    | console =>
      refine ⟨heap ++ [(((heap.table place).update e.fields).putNew "type" (.text e.name)).putNew "level"
        (.text e.level.name)], ?_, List.prefix_append _ _⟩
      rw [entries, Act.runOn_bind, Heap.merge_runOn]
      dsimp only
      rw [Act.runOn_bind, Heap.change_last]
      dsimp only
      rw [Act.runOn_bind, Heap.change_last]
      dsimp only
      rw [Act.runOn_bind, Heap.load_last]
      rfl
    | store =>
      refine ⟨heap ++ [(heap.table place).update e.fields], ?_, List.prefix_append _ _⟩
      rw [entries, Act.runOn_bind, Heap.merge_runOn]
      dsimp only
      rw [Act.runOn_bind, Heap.load_last]
      rfl
  | group members ih =>
    intro heap sound
    exact entriesAll_runOn ih sound

theorem write_runOn {h : Held} (sound : h.Sound heap) (e : Event) :
    ∃ heap', (h.write e).runOn heap = (.ok ((h.read heap).write e), heap') ∧ heap <+: heap' := by
  rw [write, Act.runOn_bind, Act.runOn_get, Logger.write]
  dsimp only
  cases (h.read heap).refuse e.level.name ["self", "event"] e.fields with
  | error f => exact ⟨heap, rfl, List.prefix_rfl⟩
  | ok _ => exact writes e h heap sound

end

/-- A refusal touches no table. -/
theorem bind_runOn {h : Held} (sound : h.Sound heap) (fields : Fields) :
    (∃ f, (h.read heap).bind fields = .error f ∧ (h.bind fields).runOn heap = (.error f, heap)) ∨
    ∃ h' heap', (h.bind fields).runOn heap = (.ok h', heap') ∧ heap <+: heap' ∧ h'.Sound heap' ∧
      (h.read heap).bind fields = .ok (h'.read heap') := by
  rw [bind, Act.runOn_bind, Act.runOn_get]
  dsimp only
  rw [Act.runOn_bind, Act.runOn_ofExcept, Logger.bind]
  cases (h.read heap).refuse "bind" ["self"] fields with
  | error f => exact .inl ⟨f, rfl, rfl⟩
  | ok _ =>
    obtain ⟨h', heap', carried, grown, there, reads⟩ := carries fields h heap sound
    exact .inr ⟨h', heap', carried, grown, there, congrArg Except.ok reads.symm⟩

end Held
end

/-- Calls on the loggers that a program holds, which it numbers in the order in which it got them. -/
inductive LogCall where
  | bind (on : Nat) (fields : Fields)
  | log (on : Nat) (e : Event)

/-- A heap with the loggers that a program holds in it. -/
structure LogSession where
  heap : Heap
  held : List Held

namespace LogSession

def logger? (s : LogSession) (i : Nat) : Option Logger :=
  s.held[i]?.map fun h => h.read s.heap

def Sound (s : LogSession) : Prop :=
  ∀ h ∈ s.held, h.Sound s.heap

section
variable [Stack]

/-- What comes of a call, and the session after it. A logger that was bound joins those that are held. -/
def take (s : LogSession) : LogCall → Written × LogSession
  | .bind on fields =>
    match s.held[on]? with
    | none => (.nothing, s)
    | some h =>
      match (h.bind fields).runOn s.heap with
      | (.ok bound, heap) => (.nothing, ⟨heap, s.held ++ [bound]⟩)
      | (.error f, heap) => (⟨[], some f⟩, { s with heap })
  | .log on e =>
    match s.held[on]? with
    | none => (.nothing, s)
    | some h =>
      match (h.write e).runOn s.heap with
      | (.ok written, heap) => (written, { s with heap })
      | (.error f, heap) => (⟨[], some f⟩, { s with heap })

def after (s : LogSession) (calls : List LogCall) : LogSession :=
  calls.foldl (fun s call => (s.take call).2) s

end

/-- Of what is held, nothing is lost and nothing reads otherwise. -/
structure Keeps (s s' : LogSession) : Prop where
  tables : s.heap <+: s'.heap
  held : s.held <+: s'.held
  sound : s'.Sound

variable {s s' : LogSession}

theorem Keeps.refl (sound : s.Sound) : Keeps s s :=
  ⟨List.prefix_rfl, List.prefix_rfl, sound⟩

theorem Keeps.trans {s'' : LogSession} (first : Keeps s s') (next : Keeps s' s'') : Keeps s s'' :=
  ⟨first.tables.trans next.tables, first.held.trans next.held, next.sound⟩

/-- New tables, and a logger that is held further if there is one. -/
theorem keeps_of_grown (sound : s.Sound) {heap : Heap} (grown : s.heap <+: heap) (more : List Held)
    (there : ∀ h ∈ more, h.Sound heap) : Keeps s ⟨heap, s.held ++ more⟩ := by
  refine ⟨grown, List.prefix_append _ _, ?_⟩
  intro h mem
  rcases List.mem_append.mp mem with old | new
  · exact (sound h old).mono grown
  · exact there h new

theorem Keeps.logger? (keeps : Keeps s s') (sound : s.Sound) {i : Nat} {l : Logger}
    (there : s.logger? i = some l) : s'.logger? i = some l := by
  obtain ⟨h, here, rfl⟩ := Option.map_eq_some_iff.mp there
  have still : s'.held[i]? = some h := by
    obtain ⟨more, same⟩ := keeps.held
    rw [← same, List.getElem?_append_left (List.getElem?_eq_some_iff.mp here).1, here]
  rw [LogSession.logger?, still, Option.map_some,
    Held.read_of_prefix (sound h (List.mem_of_getElem? here)) keeps.tables]

variable [Stack]

/-- One call, whichever logger it is on. -/
theorem take_keeps (sound : s.Sound) (call : LogCall) : Keeps s (s.take call).2 := by
  have grown {heap : Heap} (grown : s.heap <+: heap) : Keeps s ⟨heap, s.held⟩ := by
    have kept := keeps_of_grown sound grown [] nofun
    rwa [List.append_nil] at kept
  cases call with
  | bind on fields =>
    rw [take]
    cases here : s.held[on]? with
    | none => exact Keeps.refl sound
    | some h =>
      obtain ⟨f, -, run⟩ | ⟨h', heap, run, more, there, -⟩ :=
        Held.bind_runOn (sound h (List.mem_of_getElem? here)) fields
      · dsimp only
        rw [run]
        exact grown List.prefix_rfl
      · dsimp only
        rw [run]
        exact keeps_of_grown sound more [h'] (List.forall_mem_singleton.mpr there)
  | log on e =>
    rw [take]
    cases here : s.held[on]? with
    | none => exact Keeps.refl sound
    | some h =>
      obtain ⟨heap, run, more⟩ := Held.write_runOn (sound h (List.mem_of_getElem? here)) e
      dsimp only
      rw [run]
      exact grown more

theorem after_keeps (sound : s.Sound) (calls : List LogCall) : Keeps s (s.after calls) := by
  induction calls generalizing s with
  | nil => exact Keeps.refl sound
  | cons call rest ih =>
    have first := take_keeps sound call
    exact first.trans (ih first.sound)

section
variable (sound : s.Sound) {i : Nat} {l : Logger} (held : s.logger? i = some l)
include sound held

theorem take_log (e : Event) : (s.take (.log i e)).1 = l.write e := by
  obtain ⟨h, here, rfl⟩ := Option.map_eq_some_iff.mp held
  obtain ⟨heap, run, -⟩ := Held.write_runOn (sound h (List.mem_of_getElem? here)) e
  rw [take, here]
  dsimp only
  rw [run]

theorem take_bind {fields : Fields} {l' : Logger} (bound : l.bind fields = .ok l') :
    (s.take (.bind i fields)).2.logger? s.held.length = some l' := by
  obtain ⟨h, here, rfl⟩ := Option.map_eq_some_iff.mp held
  obtain ⟨f, refused, -⟩ | ⟨h', heap, run, -, -, reads⟩ :=
    Held.bind_runOn (sound h (List.mem_of_getElem? here)) fields
  · cases refused.symm.trans bound
  · cases reads.symm.trans bound
    rw [take, here]
    dsimp only
    rw [run]
    simp [logger?]

end
end LogSession

/-- Bound fields reach every leaf of a tree once, whatever the tree and its history, if every leaf takes what they
come to there; a leaf that does not ends the writing. Names that a call has for itself are refused before anything is
written. Binding is binding at every leaf, and twice is once with both. In a heap, whatever is called in between on
whichever loggers, a logger writes what it would have written at first. -/
theorem Logger.fields_reach_every_leaf [Stack] (l : Logger) (distinct : ∀ leaf ∈ l.leaves, leaf.bound.Distinct) :
    (∀ binds, (∃ l', l.derive binds = .ok l') ↔ ∀ fields ∈ binds, ¬ fields.has "self") ∧
    (∀ binds l' e, l.derive binds = .ok l' →
      ((∃ name ∈ ["self", "event"], e.fields.has name) → ∃ name ∈ ["self", "event"], e.fields.has name ∧
        l'.write e = ⟨[], some (l'.refusal e.level.name name)⟩) ∧
      ((∀ name ∈ ["self", "event"], ¬ e.fields.has name) →
        ((∀ leaf ∈ l.leaves, leaf.sink.Takes (leaf.event binds e)) → ∃ entries,
          List.Forall₂ (fun leaf => leaf.sink.Gets (leaf.event binds e)) l.leaves entries ∧
            l'.write e = ⟨entries, none⟩) ∧
        ∀ before leaf after, l.leaves = before ++ leaf :: after →
          (∀ leaf ∈ before, leaf.sink.Takes (leaf.event binds e)) → ¬ leaf.sink.Takes (leaf.event binds e) →
          ∃ entries f, List.Forall₂ (fun leaf => leaf.sink.Gets (leaf.event binds e)) before entries ∧
            l'.write e = ⟨entries, some f⟩)) ∧
    (∀ fields l', l.bind fields = .ok l' →
      l.leaves.mapM (fun leaf => leaf.logger.bind fields) = .ok (l'.leaves.map Leaf.logger)) ∧
    (∀ a b, a.Distinct → (do (← l.bind a).bind b) = l.bind (a.update b)) ∧
    ∀ (s : LogSession) (i : Nat), s.Sound → s.logger? i = some l → ∀ calls,
      (∀ e, ((s.after calls).take (.log i e)).1 = l.write e) ∧
      ∀ fields l', l.bind fields = .ok l' →
        ((s.after calls).take (.bind i fields)).2.logger? (s.after calls).held.length = some l' := by
  refine ⟨fun binds => derive_ok_iff, ?_, fun fields l' => bind_leaves fields, ?_, ?_⟩
  · intro binds l' e derived
    constructor
    · intro taken
      obtain ⟨name, reserved, has, refused⟩ := refuse_taken e.level.name taken l'
      refine ⟨name, reserved, has, ?_⟩
      rw [write, refused]
    · intro free
      constructor
      · intro takes
        obtain ⟨entries, gets, wrote⟩ := write_derived e derived distinct free (List.append_nil _).symm takes
        refine ⟨entries, gets, wrote.trans ?_⟩
        exact congrArg (Written.mk · _) (List.append_nil entries)
      · intro before leaf after split
        exact write_refused e derived distinct free split
  · intro a b apart
    exact bind_bind apart b l
  · intro s i sound held calls
    have keeps := LogSession.after_keeps sound calls
    have still := keeps.logger? sound held
    constructor
    · intro e
      exact LogSession.take_log keeps.sound still e
    · intro fields l' bound
      exact LogSession.take_bind keeps.sound still bound

/-- Two consoles that share a table, and a log store between them. -/
def LogSession.shared : LogSession :=
  ⟨[[("a", .int 1)], [("b", .int 2)]], [.group [.leaf .console 0, .group [.leaf .store 1, .leaf .console 0]]]⟩

/-- An event that has a type of its own. -/
def Event.typed : Event :=
  ⟨.info, "step.start", [("type", .text "t")]⟩

/-- The fields that the event comes to at each of the three leaves. -/
def Event.typedFields : List (Sink × Fields) :=
  [(.console, [("a", .int 3), ("run_id", .text "r"), ("type", .text "t")]),
    (.store, [("b", .int 2), ("run_id", .text "r"), ("a", .int 3), ("type", .text "t")]),
    (.console, [("a", .int 3), ("run_id", .text "r"), ("type", .text "t")])]

theorem fields_reach_three_leaves : ∃ l l' entries, LogSession.shared.logger? 0 = some l ∧
    l.derive [[("run_id", .text "r")], [("a", .int 3)]] = .ok l' ∧
    List.Forall₂ (fun leaf => leaf.1.Gets { Event.typed with fields := leaf.2 }) Event.typedFields entries ∧
    l'.write .typed = ⟨entries, none⟩ ∧
    ((LogSession.shared.after [.bind 0 [("a", .int 9)], .log 1 .typed]).take (.log 0 .typed)).1 = l.write .typed := by
  obtain ⟨derives, writes, -, -, stays⟩ := Logger.fields_reach_every_leaf
    (.group [.console [("a", .int 1)], .group [.store [("b", .int 2)], .console [("a", .int 1)]]]) (by decide)
  obtain ⟨l', derived⟩ := (derives [[("run_id", .text "r")], [("a", .int 3)]]).mpr (by decide)
  have sound : LogSession.shared.Sound := by
    simp [LogSession.shared, LogSession.Sound, Held.Sound, Held.SoundAll]
  have short : ∀ n ∈ [2, 3], Text.isLong n = false := by decide +kernel
  have takes : ∀ leaf ∈ Event.typedFields, leaf.1.Takes { Event.typed with fields := leaf.2 } := by
    intro leaf mem
    refine ⟨?_, Fields.writable_iff.mpr ?_⟩
    · revert leaf
      decide
    · simp only [Event.typedFields, List.mem_cons, List.not_mem_nil, or_false] at mem
      rcases mem with rfl | rfl | rfl
      all_goals simp [Json.writable_int_iff, short, Json.Writable.text]
  have same : (Logger.group [.console [("a", .int 1)],
      .group [.store [("b", .int 2)], .console [("a", .int 1)]]]).leaves.map (fun leaf =>
        (leaf.sink, (leaf.event [[("run_id", .text "r")], [("a", .int 3)]] .typed).fields)) = Event.typedFields := rfl
  rw [← same, List.forall_mem_map] at takes
  obtain ⟨entries, gets, wrote⟩ := ((writes _ l' .typed derived).2 (by decide)).1 takes
  refine ⟨_, l', entries, rfl, derived, ?_, wrote, (stays .shared 0 sound rfl _).1 _⟩
  rw [← same]
  exact List.forall₂_map_left_iff.mpr gets

/-- A field may have any name but those that the call has for itself: of this event nothing is written. -/
theorem self_reaches_no_leaf : (Logger.console []).leaves.length = 1 ∧
    ((Logger.console []).write ⟨.info, "step.start", [("self", .int 1)]⟩).entries = [] :=
  ⟨rfl, rfl⟩

end PageHarvest
