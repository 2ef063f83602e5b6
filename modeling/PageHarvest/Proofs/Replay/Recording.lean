import PageHarvest.Replay.Run

/-!
A host that remembers what a replay does. Every call of a page is noted with the page and the instant,
and events go to a list of their own, out of reach of the pages. `Does` speaks of actions on such a
host by their calls and the world they leave, and forgets the events.
-/
namespace PageHarvest
variable {W P H C α β : Type}

/-- A call that a replay makes of a page. -/
inductive PageCall (H : Type) where
  | navigate (visit : Visit)
  | waitFor (selector : String) (timeoutMs : Int) (root : Option H)
  | queryAll (selector : String) (root : Option H)
  | extract (root : Option H) (selector : String) (attr : Option String)

/-- A call, the page that it goes to and the instant at which it is made. -/
structure NotedCall (P H : Type) where
  page : P
  instant : Rat
  call : PageCall H

/-- A world with the events and the calls so far, oldest first. -/
structure Recorded (W P H : Type) where
  world : W
  log : List Event := []
  calls : List (NotedCall P H) := []

namespace Recorded

/-- Acts on the world of a record. -/
def within (act : Act W α) : Act (Recorded W P H) α :=
  ExceptT.mk fun r => let (out, w) := act.runOn r.world; (out, { r with world := w })

theorem runOn_within {act : Act W α} {x : α} {r r' : Recorded W P H}
    (run : (within act).runOn r = (.ok x, r')) : act.runOn r.world = (.ok x, r'.world) :=
  Prod.ext (congrArg (·.1) run) (congrArg (·.2.world) run)

/-- Notes a call, then acts. -/
def noting (h : Host W P H C) (page : P) (call : PageCall H) (act : Act W α) :
    Act (Recorded W P H) α := do
  modify fun r => { r with calls := r.calls ++ [⟨page, h.now r.world, call⟩] }
  within act

end Recorded

namespace Host

/-- The same pages, clock and callbacks, with calls and events on record. -/
def recorded (h : Host W P H C) : Host (Recorded W P H) P H C where
  blank := h.blank
  navigate page visit := Recorded.noting h page (.navigate visit) (h.navigate page visit)
  waitFor page selector ms root :=
    Recorded.noting h page (.waitFor selector ms root) (h.waitFor page selector ms root)
  queryAll page selector root :=
    Recorded.noting h page (.queryAll selector root) (h.queryAll page selector root)
  extract page root selector attr :=
    Recorded.noting h page (.extract root selector attr) (h.extract page root selector attr)
  toClock := h.toClock.within Recorded.world fun pass r => { r with world := pass r.world }
  emit e r := { r with log := r.log ++ [e] }
  call callback page items := Recorded.within (h.call callback page items)
  samePage := h.samePage

/-- `g` is the recording host of `h` but for what it writes into events. -/
structure Records (g : Host (Recorded W P H) P H C) (h : Host W P H C) : Prop where
  driver : g.toPageDriver = h.recorded.toPageDriver
  clock : g.toClock = h.recorded.toClock
  emit_world : ∀ e r, (g.emit e r).world = r.world
  emit_calls : ∀ e r, (g.emit e r).calls = r.calls

theorem recorded_records (h : Host W P H C) : h.recorded.Records h :=
  ⟨rfl, rfl, fun _ _ => rfl, fun _ _ => rfl⟩

theorem Records.bind {g : Host (Recorded W P H) P H C} {h : Host W P H C} (records : g.Records h)
    (bound : Fields) : (g.bind bound).Records h where
  driver := records.driver
  clock := records.clock
  emit_world _ r := records.emit_world _ r
  emit_calls _ r := records.emit_calls _ r

end Host

/-- From every record of the world `w` the action comes to `out`, adds `calls` and leaves `w'`. -/
def Does (act : Act (Recorded W P H) α) (w : W) (calls : List (NotedCall P H))
    (out : Except Failure α) (w' : W) : Prop :=
  ∀ r : Recorded W P H, r.world = w →
    (act.runOn r).1 = out ∧ (act.runOn r).2.world = w' ∧ (act.runOn r).2.calls = r.calls ++ calls

namespace Does
variable {w w₁ w₂ : W} {calls more : List (NotedCall P H)}
  {act : Act (Recorded W P H) α} {next : α → Act (Recorded W P H) β}

theorem bind {x : α} {out : Except Failure β} (first : Does act w calls (.ok x) w₁)
    (second : Does (next x) w₁ more out w₂) : Does (act >>= next) w (calls ++ more) out w₂ := by
  intro r start
  obtain ⟨answer, world, noted⟩ := first r start
  obtain ⟨answer', world', noted'⟩ := second _ world
  have run : (act >>= next).runOn r = (next x).runOn (act.runOn r).2 := by
    rw [Act.runOn_bind, ← Prod.eta (act.runOn r), answer]
  rw [run]
  exact ⟨answer', world', by rw [noted', noted, List.append_assoc]⟩

theorem bind_error {f : Failure} (first : Does act w calls (.error f) w₁) :
    Does (act >>= next) w calls (.error f) w₁ := by
  intro r start
  obtain ⟨answer, world, noted⟩ := first r start
  have run : (act >>= next).runOn r = (.error f, (act.runOn r).2) := by
    rw [Act.runOn_bind, ← Prod.eta (act.runOn r), answer]
  rw [run]
  exact ⟨rfl, world, noted⟩

theorem pure (x : α) (w : W) : Does (P := P) (H := H) (Pure.pure x) w [] (.ok x) w :=
  fun _ start => ⟨rfl, start, (List.append_nil _).symm⟩

theorem fail (f : Failure) (w : W) : Does (P := P) (H := H) (Act.fail f : Act _ α) w [] (.error f) w :=
  fun _ start => ⟨rfl, start, (List.append_nil _).symm⟩

theorem ofExcept (out : Except Failure α) (w : W) :
    Does (P := P) (H := H) (Act.ofExcept out) w [] out w :=
  fun _ start => ⟨rfl, start, (List.append_nil _).symm⟩

/-- A step without calls leads on to one with the calls that the whole has. -/
theorem silently {x : α} {out : Except Failure β} (first : Does act w [] (.ok x) w₁)
    (second : Does (next x) w₁ calls out w₂) : Does (act >>= next) w calls out w₂ :=
  first.bind second

theorem map {out : Except Failure α} (g : α → β) (first : Does act w calls out w₁) :
    Does (g <$> act) w calls (out.map g) w₁ := by
  intro r start
  obtain ⟨answer, world, noted⟩ := first r start
  rw [Act.runOn_map, answer]
  exact ⟨rfl, world, noted⟩

theorem outcome {out : Except Failure α} (first : Does act w calls out w₁) :
    Does (Act.outcome act) w calls (.ok out) w₁ := by
  intro r start
  obtain ⟨answer, world, noted⟩ := first r start
  rw [Act.runOn_outcome, answer]
  exact ⟨rfl, world, noted⟩

/-- What is said of every record holds of the empty one. -/
theorem runOn_recorded {out : Except Failure α} {w' : W} (does : Does act w calls out w') :
    ∃ log, act.runOn ⟨w, [], []⟩ = (out, ⟨w', log, calls⟩) := by
  obtain ⟨answer, world, noted⟩ := does ⟨w, [], []⟩ rfl
  rw [List.nil_append] at noted
  subst answer world noted
  exact ⟨_, rfl⟩

end Does

namespace Host.Records
variable {g : Host (Recorded W P H) P H C} {h : Host W P H C} (records : g.Records h)
include records

theorem does_log (level : Level) (name : String) (fields : Fields) (w : W) :
    Does (g.log level name fields) w [] (.ok ⟨⟩) w :=
  fun r start => ⟨rfl, (records.emit_world _ r).trans start,
    (records.emit_calls _ r).trans (List.append_nil _).symm⟩

theorem does_time (w : W) : Does g.time w [] (.ok (h.now w)) w := by
  intro r start
  subst start
  refine ⟨?_, rfl, (List.append_nil _).symm⟩
  show Except.ok (g.toClock.now r) = _
  rw [records.clock]
  rfl

theorem precision : g.precision = h.precision :=
  congrArg Clock.precision records.clock

theorem does_refused {s : Rat} (refused : h.refuses s = true) (w : W) :
    Does (g.rest s) w [] (.error Clock.tooLong) w := by
  rw [records.clock, Clock.rest_of_refuses (c := h.recorded.toClock) refused]
  exact .fail _ w

theorem does_taken {s : Rat} (taken : h.refuses s = false) (w : W) :
    Does (g.rest s) w [] (.ok ⟨⟩) (h.sleep s w) := by
  intro r start
  subst start
  rw [records.clock, Clock.rest_of_takes (c := h.recorded.toClock) taken]
  exact ⟨rfl, rfl, (List.append_nil _).symm⟩

end Host.Records

/-- One call of a page, what is answered to it, and the world that it leaves. -/
def Answers (h : Host W P H C) (page : P) (call : PageCall H) (act : Act W α) (w : W)
    (calls : List (NotedCall P H)) (out : Except Failure α) (w' : W) : Prop :=
  calls = [⟨page, h.now w, call⟩] ∧ act.runOn w = (out, w')

def Navigated (h : Host W P H C) (page : P) (visit : Visit) :=
  Answers h page (.navigate visit) (h.navigate page visit)

def WaitedFor (h : Host W P H C) (page : P) (selector : String) (ms : Int) (root : Option H) :=
  Answers h page (.waitFor selector ms root) (h.waitFor page selector ms root)

def Queried (h : Host W P H C) (page : P) (selector : String) (root : Option H) :=
  Answers h page (.queryAll selector root) (h.queryAll page selector root)

def Extracted (h : Host W P H C) (page : P) (root : Option H) (f : Field) :=
  Answers h page (.extract root f.selector f.attr) (h.extract page root f.selector f.attr)

/-- A noted call does what the call itself does. -/
theorem does_noting (h : Host W P H C) (page : P) (call : PageCall H) (act : Act W α) (w : W) :
    ∃ calls out w', Answers h page call act w calls out w' ∧
      Does (Recorded.noting h page call act) w calls out w' := by
  refine ⟨_, _, _, ⟨rfl, rfl⟩, ?_⟩
  intro r start
  subst start
  exact ⟨rfl, rfl, rfl⟩

namespace Host.Records
variable {g : Host (Recorded W P H) P H C} {h : Host W P H C} (records : g.Records h) (page : P)
include records

theorem does_navigate (visit : Visit) (w : W) : ∃ calls out w',
    Navigated h page visit w calls out w' ∧ Does (g.navigate page visit) w calls out w' := by
  rw [records.driver]
  exact does_noting h page _ _ w

theorem does_waitFor (selector : String) (ms : Int) (root : Option H) (w : W) : ∃ calls out w',
    WaitedFor h page selector ms root w calls out w' ∧
      Does (g.waitFor page selector ms root) w calls out w' := by
  rw [records.driver]
  exact does_noting h page _ _ w

theorem does_queryAll (selector : String) (root : Option H) (w : W) : ∃ calls out w',
    Queried h page selector root w calls out w' ∧
      Does (g.queryAll page selector root) w calls out w' := by
  rw [records.driver]
  exact does_noting h page _ _ w

theorem does_extract (root : Option H) (f : Field) (w : W) : ∃ calls out w',
    Extracted h page root f w calls out w' ∧
      Does (g.extract page root f.selector f.attr) w calls out w' := by
  rw [records.driver]
  exact does_noting h page _ _ w

end Host.Records
end PageHarvest
