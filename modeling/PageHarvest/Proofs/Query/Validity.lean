import PageHarvest.Proofs.Query.Calls

/-!
Which step lists the builder builds: exactly the valid ones. A list is valid when every step is on its
own and no scope is selected from twice; that a selection is refused is found by looking back over the
steps, and means that it would come second in its scope.
-/
namespace PageHarvest
variable {C : Type}

structure Field.Valid (f : Field) : Prop where
  attr : f.attr ≠ some ""
  selector : f.attr ≠ none → f.selector ≠ ""

namespace Query

/-- Steps that can follow the first one. A callback is one by its type. -/
inductive LaterStep : Step C → Prop where
  | navigate {url} (nonblank : NonBlank url) : LaterStep (.navigate ⟨url, "GET", .null⟩)
  | waitFor {selector timeoutMs} (nonblank : NonBlank selector) (timeout : IsTimeout timeoutMs) :
      LaterStep (.waitFor selector timeoutMs)
  | groupBy {selector} (nonblank : NonBlank selector) : LaterStep (.groupBy selector)
  | select {fields} (valid : ∀ f ∈ fields, f.Valid) : LaterStep (.select fields)
  | eval (callback) : LaterStep (.eval callback)

/-- Whether a scope begins at a step. -/
def opensScope : Step C → Bool
  | .navigate _ | .groupBy _ => true
  | _ => false

/-- Between any two selections a scope begins. -/
def Separated (steps : List (Step C)) : Prop :=
  ∀ before fields between fields' after,
    steps = before ++ .select fields :: between ++ .select fields' :: after →
      ∃ s ∈ between, opensScope s = true

structure ValidSteps (steps : List (Step C)) : Prop where
  start : ∃ visit later, steps = .navigate visit :: later ∧ NonBlank visit.url ∧
    (visit.method = "GET" ∨ visit.method = "POST") ∧ ∀ s ∈ later, LaterStep s
  separated : Separated steps

/-! The look back over the steps -/

theorem selectedIn_iff (latest : List (Step C)) : selectedIn latest = true ↔
    ∃ between fields before, latest = between ++ .select fields :: before ∧
      ∀ s ∈ between, opensScope s = false := by
  induction latest with
  | nil => simp [selectedIn]
  | cons s rest ih =>
    -- a step that opens a scope ends the look back
    have opened (opens : opensScope s = true) : ¬ ∃ between fields before,
        s :: rest = between ++ .select fields :: before ∧ ∀ s ∈ between, opensScope s = false := by
      rintro ⟨between, fields, before, split, closed⟩
      cases between with
      | nil =>
        cases split
        cases opens
      | cons s' between =>
        cases split
        rw [closed s List.mem_cons_self] at opens
        cases opens
    -- one that neither opens a scope nor selects is passed over
    have passed (quiet : opensScope s = false) (other : ∀ fields, s ≠ .select fields) :
        selectedIn rest = true ↔ ∃ between fields before,
          s :: rest = between ++ .select fields :: before ∧ ∀ s ∈ between, opensScope s = false := by
      rw [ih]
      constructor
      · rintro ⟨between, fields, before, rfl, closed⟩
        exact ⟨s :: between, fields, before, rfl, List.forall_mem_cons.mpr ⟨quiet, closed⟩⟩
      · rintro ⟨between, fields, before, split, closed⟩
        cases between with
        | nil =>
          cases split
          exact absurd rfl (other fields)
        | cons s' between =>
          cases split
          exact ⟨between, fields, before, rfl, fun s mem => closed s (List.mem_cons_of_mem _ mem)⟩
    cases s with
    | select fields =>
      simp only [selectedIn, true_iff]
      exact ⟨[], fields, rest, rfl, nofun⟩
    | navigate visit =>
      simp only [selectedIn, Bool.false_eq_true, false_iff]
      exact opened rfl
    | groupBy selector =>
      simp only [selectedIn, Bool.false_eq_true, false_iff]
      exact opened rfl
    | waitFor selector timeoutMs => exact passed rfl nofun
    | eval callback => exact passed rfl nofun
    | bare => exact passed rfl nofun

/-- The scope at the end of the steps has been selected from. -/
theorem selectedIn_reverse_iff (steps : List (Step C)) : selectedIn steps.reverse = true ↔
    ∃ before fields between, steps = before ++ .select fields :: between ∧
      ∀ s ∈ between, opensScope s = false := by
  rw [selectedIn_iff]
  constructor
  · rintro ⟨between, fields, before, split, closed⟩
    refine ⟨before.reverse, fields, between.reverse, ?_, fun s mem => closed s (List.mem_reverse.mp mem)⟩
    rw [← List.reverse_reverse steps, split]
    simp
  · rintro ⟨before, fields, between, rfl, closed⟩
    exact ⟨between.reverse, fields, before.reverse, by simp, fun s mem => closed s (List.mem_reverse.mp mem)⟩

theorem Separated.of_append {steps more : List (Step C)} (separated : Separated (steps ++ more)) :
    Separated steps := by
  rintro before fields between fields' after rfl
  exact separated before fields between fields' (after ++ more) (by simp)

/-- One more step keeps selections apart unless it selects from a scope for the second time. -/
theorem separated_concat_iff (steps : List (Step C)) (s : Step C) : Separated (steps ++ [s]) ↔
    Separated steps ∧ ((∃ fields, s = .select fields) → selectedIn steps.reverse = false) := by
  constructor
  · intro separated
    refine ⟨separated.of_append, ?_⟩
    rintro ⟨fields', rfl⟩
    rw [Bool.eq_false_iff]
    intro selected
    obtain ⟨before, fields, between, rfl, closed⟩ := (selectedIn_reverse_iff steps).mp selected
    obtain ⟨s, mem, opens⟩ := separated before fields between fields' [] (by simp)
    rw [closed s mem] at opens
    cases opens
  · rintro ⟨separated, fresh⟩ before fields between fields' after split
    rcases List.eq_nil_or_concat after with rfl | ⟨after, last, rfl⟩
    · obtain ⟨rfl, same⟩ := List.append_inj' split rfl
      have unselected := fresh ⟨fields', List.singleton_inj.mp same⟩
      by_contra closed
      have selected : selectedIn (before ++ .select fields :: between).reverse = true := by
        rw [selectedIn_reverse_iff]
        refine ⟨before, fields, between, rfl, fun s mem => ?_⟩
        rw [Bool.eq_false_iff]
        exact fun opens => closed ⟨s, mem, opens⟩
      rw [unselected] at selected
      cases selected
    · rw [List.concat_eq_append, ← List.cons_append, ← List.append_assoc] at split
      obtain ⟨rfl, -⟩ := List.append_inj' split rfl
      exact separated before fields between fields' after rfl

/-! Every query that is built is valid. -/

end Query

namespace Field

/-- What an attribute stands for, if it is one: a text names it, and nothing or an empty text asks for the
text of the element. -/
def attrOf? : Value → Option (Option String)
  | .null => some none
  | .text attr => some (if attr.isEmpty then none else some attr)
  | _ => none

/-- A definition asks for a selector and an attribute. -/
inductive Written : Value → String → Option String → Prop where
  | short (selector) : Written (.text selector) selector none
  | spelled {m selector attr} (path : either m "path" "selector" = .text selector) (filled : selector ≠ "")
      (named : attrOf? (either m "attr" "attribute") = some attr) : Written (.map m) selector attr

theorem ofDefinition_map (name : String) (m : Mapping) : ofDefinition name (.map m) =
    match either m "path" "selector", attrOf? (either m "attr" "attribute") with
    | .text selector, some attr => if selector = "" then .error malformed else .ok ⟨name, selector, attr⟩
    | _, _ => .error malformed := by
  dsimp only [ofDefinition]
  generalize either m "path" "selector" = path
  generalize either m "attr" "attribute" = named
  cases path with
  | text selector =>
    by_cases empty : selector = ""
    · cases named <;> simp [empty, attrOf?]
    · cases named <;> simp [empty, attrOf?]
  | _ => rfl

theorem ofDefinition_ok_iff {name : String} {v : Value} {f : Field} :
    ofDefinition name v = .ok f ↔ f.name = name ∧ Written v f.selector f.attr := by
  constructor
  · intro read
    cases v with
    | text s =>
      cases read
      exact ⟨rfl, .short s⟩
    | map m =>
      rw [ofDefinition_map] at read
      split at read
      · rename_i path named
        split at read
        · cases read
        · rename_i filled
          cases read
          exact ⟨rfl, .spelled path filled named⟩
      · cases read
    | _ => cases read
  · obtain ⟨fieldName, selector, attr⟩ := f
    rintro ⟨rfl, written⟩
    cases written with
    | short s => rfl
    | spelled path filled named =>
      rw [ofDefinition_map, path, named]
      exact if_neg filled

section
variable [Stack]

theorem ofEntry_ok_iff {e : Value × Value} {f : Field} :
    ofEntry e = .ok f ↔ ofDefinition e.1.plain e.2 = .ok f ∧ e.1.unshown? = none := by
  unfold ofEntry
  rw [bind_ok_iff]
  cases e.1.unshown? with
  | some u => simp
  | none => simp [pure, Except.pure]

theorem ofEntry_malformed_iff {e : Value × Value} :
    ofEntry e = .error malformed ↔ ofDefinition e.1.plain e.2 = .error malformed := by
  unfold ofEntry
  rw [bind_error_iff]
  cases e.1.unshown? with
  | some u => cases u <;> simp [malformed, Cause.unshown, Cause.longInteger, Cause.tooDeep]
  | none => simp [pure, Except.pure]

end

theorem attrOf?_filled {v : Value} {attr : Option String} (named : attrOf? v = some attr) : attr ≠ some "" := by
  cases v with
  | null =>
    cases named
    nofun
  | text a =>
    cases named
    by_cases empty : a = ""
    · simp [empty]
    · simp [empty]
  | _ => cases named

theorem valid_of_ofDefinition {name : String} {v : Value} {f : Field} (read : ofDefinition name v = .ok f) :
    f.Valid := by
  obtain ⟨-, written⟩ := ofDefinition_ok_iff.mp read
  obtain ⟨fieldName, selector, attr⟩ := f
  cases written with
  | short s => exact ⟨nofun, fun none => absurd rfl none⟩
  | spelled path filled named => exact ⟨attrOf?_filled named, fun _ => filled⟩

theorem valid_of_ofMapping [Stack] {v : Value} {fields : List Field} (read : ofMapping v = .ok fields) :
    ∀ f ∈ fields, f.Valid := by
  cases v with
  | map m =>
    have entries := mapM_ok_iff.mp read
    clear read
    induction entries with
    | nil => exact nofun
    | cons one _ ih => exact List.forall_mem_cons.mpr ⟨valid_of_ofDefinition (ofEntry_ok_iff.mp one).1, ih⟩
  | _ => cases read

end Field

namespace Query

theorem Appends.laterStep [Stack] {q : Query C} {c : Call C} {s : Step C} (appends : Appends q c s) :
    LaterStep s := by
  cases appends with
  | go nonblank => exact .navigate nonblank
  | waitFor nonblank timeout => exact .waitFor nonblank timeout
  | groupBy nonblank => exact .groupBy nonblank
  | select read fresh => exact .select (Field.valid_of_ofMapping read)
  | eval c => exact .eval c

/-- A step that follows valid ones, on its own valid, and no second selection. -/
theorem ValidSteps.concat {steps : List (Step C)} {s : Step C} (valid : ValidSteps steps)
    (later : LaterStep s) (fresh : (∃ fields, s = .select fields) → selectedIn steps.reverse = false) :
    ValidSteps (steps ++ [s]) := by
  obtain ⟨visit, rest, rfl, nonblank, allowed, others⟩ := valid.start
  refine ⟨⟨visit, rest ++ [s], rfl, nonblank, allowed, fun s' mem => ?_⟩,
    (separated_concat_iff _ s).mpr ⟨valid.separated, fresh⟩⟩
  rcases List.mem_append.mp mem with old | new
  · exact others s' old
  · rw [List.mem_singleton.mp new]
    exact later

theorem validSteps_of_build [Stack] {url method postData : Value} {calls : List (Call C)} {q : Query C}
    (built : build url method postData calls = .ok q) : ValidSteps q.steps := by
  refine build_induction (motive := fun q => ValidSteps q.steps) ?_ ?_ built
  · intro url method postData nonblank allowed
    refine ⟨⟨_, [], rfl, nonblank, allowed, nofun⟩, ?_⟩
    intro before fields between fields' after split
    have lengths := congrArg List.length split
    simp [steps] at lengths
    omega
  · intro q c s valid appends
    rw [steps_append]
    refine valid.concat appends.laterStep ?_
    rintro ⟨fields, rfl⟩
    cases appends with
    | select read fresh => exact fresh

end Query

/-! Every valid list is built, by the calls that its steps stand for. -/

namespace Field

/-- A field as it is written in a mapping of fields. -/
def definition (f : Field) : Value :=
  match f.attr with
  | none => .text f.selector
  | some attr => .map [(.text "path", .text f.selector), (.text "attr", .text attr)]

def mapping (fields : List Field) : Value :=
  .map (fields.map fun f => (.text f.name, f.definition))

theorem ofDefinition_definition {f : Field} (valid : f.Valid) : ofDefinition f.name f.definition = .ok f := by
  rcases f with ⟨name, selector, _ | attr⟩
  · rfl
  · have filled : selector ≠ "" := valid.selector (Option.some_ne_none attr)
    have attr_ne : attr ≠ "" := fun empty => valid.attr (congrArg some empty)
    have named : attrOf? (.text attr) = some (some attr) := by
      simp [attrOf?, attr_ne]
    exact ofDefinition_ok_iff.mpr ⟨rfl, .spelled rfl filled named⟩

theorem ofMapping_mapping [Stack] {fields : List Field} (valid : ∀ f ∈ fields, f.Valid) :
    ofMapping (mapping fields) = .ok fields := by
  refine mapM_ok_iff.mpr ?_
  induction fields with
  | nil => exact .nil
  | cons f rest ih =>
    obtain ⟨first, others⟩ := List.forall_mem_cons.mp valid
    exact .cons (ofEntry_ok_iff.mpr ⟨ofDefinition_definition first, Value.unshown?_text f.name⟩) (ih others)

theorem definition_proper (f : Field) : f.definition.Proper := by
  rcases f with ⟨name, selector, _ | attr⟩
  · exact .text selector
  · exact Value.proper_of_named [("path", selector), ("attr", attr)] (·.1) (fun i => .text i.2)
      (show ["path", "attr"].Nodup by decide) fun i _ => .text i.2

theorem mapping_proper {fields : List Field} (distinct : (fields.map (·.name)).Nodup) :
    (mapping fields).Proper :=
  Value.proper_of_named fields (·.name) definition distinct fun f _ => f.definition_proper

end Field

namespace Query
section
variable [Stack]

/-- The call that appends a step; a step that asks for nothing has none, and is given one that is
refused. -/
def Call.ofStep : Step C → Call C
  | .navigate visit => .go (.text visit.url)
  | .waitFor selector timeoutMs => .waitFor (.text selector) timeoutMs
  | .groupBy selector => .groupBy (.text selector)
  | .select fields => .select (Field.mapping fields)
  | .eval callback => .eval (.callback callback)
  | .bare => .eval .data

theorem appends_ofStep {q : Query C} {s : Step C} (later : LaterStep s)
    (fresh : (∃ fields, s = .select fields) → selectedIn q.steps.reverse = false) :
    Appends q (.ofStep s) s := by
  cases later with
  | navigate nonblank => exact .go nonblank
  | waitFor nonblank timeout => exact .waitFor nonblank timeout
  | groupBy nonblank => exact .groupBy nonblank
  | select valid => exact .select (Field.ofMapping_mapping valid) (fresh ⟨_, rfl⟩)
  | eval callback => exact .eval callback

theorem grow_ofStep {q : Query C} {more : List (Step C)} (later : ∀ s ∈ more, LaterStep s)
    (separated : Separated (q.steps ++ more)) :
    q.grow (more.map Call.ofStep) = .ok ⟨q.start, q.later ++ more⟩ := by
  induction more generalizing q with
  | nil => simp
  | cons s rest ih =>
    obtain ⟨first, others⟩ := List.forall_mem_cons.mp later
    have split : q.steps ++ s :: rest = (q.append s).steps ++ rest := by simp
    rw [split] at separated
    have fresh := ((separated_concat_iff q.steps s).mp separated.of_append).2
    have applied : (Call.ofStep s).apply q = .ok (q.append s) :=
      apply_ok_iff.mpr ⟨s, appends_ofStep first fresh, rfl⟩
    rw [List.map_cons, grow_cons, applied]
    have grown := ih others separated
    rw [append, List.append_assoc] at grown
    exact grown

omit [Stack] in
theorem LaterStep.arguments_proper {s : Step C} (later : LaterStep s)
    (distinct : ∀ fields, s = .select fields → (fields.map (·.name)).Nodup) :
    ∀ v ∈ (Call.ofStep s).arguments, v.Proper := by
  cases later with
  | navigate nonblank => exact List.forall_mem_singleton.mpr (.text _)
  | waitFor nonblank timeout =>
    exact List.forall_mem_cons.mpr ⟨.text _, List.forall_mem_singleton.mpr (IsTimeout.proper timeout)⟩
  | groupBy nonblank => exact List.forall_mem_singleton.mpr (.text _)
  | select valid => exact List.forall_mem_singleton.mpr (Field.mapping_proper (distinct _ rfl))
  | eval callback => exact nofun

/-- Selecting is refused when it would be the second time in a scope, and for nothing else once the
fields can be read. -/
theorem select_of_read {q : Query C} {v : Value} {fields : List Field}
    (separated : Separated q.steps) (read : Field.ofMapping v = .ok fields) :
    (Separated (q.steps ++ [.select fields]) → q.select v = .ok (q.append (.select fields))) ∧
      (¬ Separated (q.steps ++ [.select fields]) → q.select v = .error Field.malformed) := by
  have apart := separated_concat_iff q.steps (.select fields)
  cases selected : selectedIn q.steps.reverse with
  | false =>
    have accepted : Separated (q.steps ++ [.select fields]) := apart.mpr ⟨separated, fun _ => selected⟩
    refine ⟨fun _ => ?_, fun refused => absurd accepted refused⟩
    simp only [select, read, selected]
    rfl
  | true =>
    have refused : ¬ Separated (q.steps ++ [.select fields]) := by
      intro accepted
      have fresh := (apart.mp accepted).2 ⟨fields, rfl⟩
      rw [selected] at fresh
      cases fresh
    refine ⟨fun accepted => absurd accepted refused, fun _ => ?_⟩
    simp only [select, read, selected]
    rfl

/-- The steps of every query that calls build are valid; all valid steps whose selections name each of
their fields once are built by some calls; and a selection whose fields can be read is refused exactly
when it would come second in its scope. -/
theorem builds_exactly_valid_steps :
    (∀ url method postData calls (q : Query C),
      build url method postData calls = .ok q → ValidSteps q.steps) ∧
    (∀ steps : List (Step C), ValidSteps steps →
      (∀ fields, .select fields ∈ steps → (fields.map (·.name)).Nodup) →
      ∃ url method postData calls q, (∀ c ∈ calls, ∀ v ∈ c.arguments, v.Proper) ∧
        build url method postData calls = .ok q ∧ q.steps = steps) ∧
    ∀ url method postData calls (q : Query C) v fields,
      build url method postData calls = .ok q → Field.ofMapping v = .ok fields →
      ((∃ message, q.select v = .error (Cause.invalidPipeline message)) ↔
        ¬ Separated (q.steps ++ [.select fields])) ∧
      (Separated (q.steps ++ [.select fields]) → q.select v = .ok (q.append (.select fields))) := by
  refine ⟨fun _ _ _ _ _ built => validSteps_of_build built, ?_, ?_⟩
  · intro steps valid distinct
    obtain ⟨visit, later, rfl, nonblank, allowed, others⟩ := valid.start
    refine ⟨.text visit.url, .text visit.method, visit.postData, later.map Call.ofStep,
      ⟨visit, later⟩, ?_, ?_, rfl⟩
    · intro c mem
      obtain ⟨s, inside, rfl⟩ := List.mem_map.mp mem
      refine (others s inside).arguments_proper fun fields same => ?_
      exact distinct fields (List.mem_cons_of_mem _ (same ▸ inside))
    · have started : startingAt (.text visit.url) (.text visit.method) visit.postData =
          .ok (⟨visit, []⟩ : Query C) :=
        startingAt_ok_iff.mpr ⟨_, _, rfl, nonblank, rfl, allowed, rfl⟩
      refine bind_ok_iff.mpr ⟨_, started, ?_⟩
      exact grow_ofStep (q := ⟨visit, []⟩) others valid.separated
  · intro url method postData calls q v fields built read
    obtain ⟨accepts, refuses⟩ := select_of_read (validSteps_of_build built).separated read
    refine ⟨⟨?_, fun twice => ⟨_, refuses twice⟩⟩, accepts⟩
    rintro ⟨message, failed⟩ separated
    rw [accepts separated] at failed
    cases failed

end

/-- A grouped listing, after which nothing more can be selected from its scope. -/
theorem builds_exactly_valid_steps_of_listing :
    ∃ q : Query Empty, build (.text "http://shop/") (.text "POST") (.text "a=1")
        [.waitFor (.text "li") (.int 500), .groupBy (.text "li"),
          .select (.map [(.text "name", .text "b")])] = .ok q ∧
      ValidSteps q.steps ∧
      (∃ url method postData calls q', (∀ c ∈ calls, ∀ v ∈ Call.arguments c, v.Proper) ∧
        build url method postData calls = .ok q' ∧ q'.steps = q.steps) ∧
      ∃ message, q.select (.map [(.text "price", .text "i")]) =
        .error (Cause.invalidPipeline message) := by
  have built : build (.text "http://shop/") (.text "POST") (.text "a=1")
      [.waitFor (.text "li") (.int 500), .groupBy (.text "li"),
        .select (.map [(.text "name", .text "b")])] = .ok (⟨⟨"http://shop/", "POST", .text "a=1"⟩,
          [.waitFor "li" (.int 500), .groupBy "li", .select [⟨"name", "b", none⟩]]⟩ : Query Empty) := by
    rfl
  obtain ⟨valid, all, refused⟩ := builds_exactly_valid_steps (C := Empty)
  have steps_valid := valid _ _ _ _ _ built
  refine ⟨_, built, steps_valid, all _ steps_valid ?_, ?_⟩
  · intro fields mem
    simp [steps] at mem
    simp [mem]
  · have read : Field.ofMapping (.map [(.text "price", .text "i")]) = .ok [⟨"price", "i", none⟩] := rfl
    refine (refused _ _ _ _ _ _ _ built read).1.mpr fun separated => ?_
    obtain ⟨s, mem, _⟩ := separated [_, _, _] _ [] _ [] rfl
    cases mem

end Query
end PageHarvest
