import PageHarvest.Proofs.Query.Construction
import PageHarvest.Proofs.Query.Validity

/-!
Definitions and calls of the builder say the same things. A query without callbacks can be written as a
definition that loads as that very query, and whatever loads is what the calls that the entries ask for
build, one step for each entry.
-/
namespace PageHarvest.Query
variable {C : Type}

/-- A step as an entry of a definition. Callbacks cannot be written. -/
def entry : Step C → Value
  | .navigate visit => .map [(.text "go", .text visit.url)]
  | .waitFor selector timeoutMs => .map [(.text "wait_for", .text selector), (.text "timeout_ms", timeoutMs)]
  | .groupBy selector => .map [(.text "group_by", .text selector)]
  | .select fields => .map [(.text "select", Field.mapping fields)]
  | .eval _ | .bare => .null

/-- A query as a definition. -/
def rendering (q : Query C) : Mapping := [
  (.text "url", .text q.start.url), (.text "method", .text q.start.method),
  (.text "post_data", q.start.postData), (.text "steps", .list (q.later.map entry))]

/-- Of the step keys, the mapping has this one alone. -/
def OnlyKey (m : Mapping) (key : String) (v : Value) : Prop :=
  m.field? key = some v ∧ ∀ other ∈ stepKeys, other ≠ key → m.field? other = none

/-- The call that an entry asks for by its only step key. -/
inductive AsksFor : Value → Call C → Prop where
  | go {m v} (only : OnlyKey m "go" v) : AsksFor (.map m) (.go v)
  | waitFor {m v} (only : OnlyKey m "wait_for" v) :
      AsksFor (.map m) (.waitFor v ((m.field? "timeout_ms").getD .null))
  | groupBy {m v} (only : OnlyKey m "group_by" v) : AsksFor (.map m) (.groupBy v)
  | select {m v} (only : OnlyKey m "select" v) : AsksFor (.map m) (.select v)

/-- The entries of a definition; steps that count as nothing are none. -/
def Lists (m : Mapping) (entries : List Value) : Prop :=
  m.field? "steps" = some (.list entries) ∨
    entries = [] ∧ ((m.field? "steps").getD .null).isEmpty = true

/-! From a query to its definition and back -/

section
variable [Stack]

theorem applyStep_entry {q : Query C} (index : Nat) {s : Step C} (later : LaterStep s)
    (plain : ∀ callback, s ≠ .eval callback) : q.applyStep index (entry s) = (Call.ofStep s).apply q := by
  cases later with
  | navigate nonblank => rfl
  | waitFor nonblank timeout => rfl
  | groupBy nonblank => rfl
  | select valid => rfl
  | eval callback => exact absurd rfl (plain callback)

theorem applySteps_entries {q : Query C} (index : Nat) {more : List (Step C)}
    (later : ∀ s ∈ more, LaterStep s) (plain : ∀ callback, .eval callback ∉ more) :
    q.applySteps index (more.map entry) = q.grow (more.map Call.ofStep) := by
  induction more generalizing q index with
  | nil => rfl
  | cons s rest ih =>
    obtain ⟨first, others⟩ := List.forall_mem_cons.mp later
    have here : ∀ callback, s ≠ .eval callback := by
      rintro callback rfl
      exact plain callback List.mem_cons_self
    rw [List.map_cons, List.map_cons, applySteps, grow_cons, applyStep_entry index first here]
    refine congrArg ((Call.ofStep s).apply q >>= ·) (funext fun q => ?_)
    exact ih (index + 1) others fun callback mem => plain callback (List.mem_cons_of_mem _ mem)

theorem ofMapping_rendering {q : Query C} (valid : ValidSteps q.steps)
    (plain : ∀ callback, .eval callback ∉ q.steps) : ofMapping q.rendering = .ok q := by
  obtain ⟨visit, later, split, nonblank, allowed, others⟩ := valid.start
  obtain ⟨same, rfl⟩ := List.cons.inj split
  obtain rfl := Step.navigate.inj same
  have started : startingAt (.text q.start.url) (.text q.start.method) q.start.postData =
      .ok (⟨q.start, []⟩ : Query C) :=
    startingAt_ok_iff.mpr ⟨_, _, rfl, nonblank, rfl, allowed, rfl⟩
  refine bind_ok_iff.mpr ⟨_, started, ?_⟩
  show applySteps _ 0 (q.later.map entry) = _
  rw [applySteps_entries 0 others fun callback mem => plain callback (List.mem_cons_of_mem _ mem)]
  exact grow_ofStep (q := ⟨q.start, []⟩) others valid.separated

omit [Stack] in
theorem entry_proper {s : Step C} (later : LaterStep s)
    (distinct : ∀ fields, s = .select fields → (fields.map (·.name)).Nodup) : (entry s).Proper := by
  have single (key : String) {v : Value} (proper : v.Proper) : (Value.map [(.text key, v)]).Proper :=
    Value.proper_of_named [(key, v)] (·.1) (·.2)
      (List.pairwise_singleton _ _) (List.forall_mem_singleton.mpr proper)
  cases later with
  | navigate nonblank => exact single "go" (.text _)
  | @waitFor selector timeoutMs nonblank timeout =>
    exact Value.proper_of_named [("wait_for", .text selector), ("timeout_ms", timeoutMs)] (·.1) (·.2)
      (show ["wait_for", "timeout_ms"].Nodup by decide)
      (List.forall_mem_cons.mpr ⟨.text _, List.forall_mem_singleton.mpr timeout.proper⟩)
  | groupBy nonblank => exact single "group_by" (.text _)
  | select valid => exact single "select" (Field.mapping_proper (distinct _ rfl))
  | eval callback => exact .null

omit [Stack] in
theorem rendering_proper {q : Query C} (valid : ValidSteps q.steps)
    (distinct : ∀ fields, .select fields ∈ q.steps → (fields.map (·.name)).Nodup)
    (posted : q.start.postData.Proper) : (Value.map q.rendering).Proper := by
  obtain ⟨visit, later, split, -, -, others⟩ := valid.start
  obtain ⟨-, rfl⟩ := List.cons.inj split
  have entries : (Value.list (q.later.map entry)).Proper := by
    refine .list fun v mem => ?_
    obtain ⟨s, inside, rfl⟩ := List.mem_map.mp mem
    refine entry_proper (others s inside) fun fields same => ?_
    exact distinct fields (List.mem_cons_of_mem _ (same ▸ inside))
  refine Value.proper_of_named [("url", .text q.start.url), ("method", .text q.start.method),
    ("post_data", q.start.postData), ("steps", .list (q.later.map entry))] (·.1) (·.2)
    (show ["url", "method", "post_data", "steps"].Nodup by decide) ?_
  exact List.forall_mem_cons.mpr ⟨.text _, List.forall_mem_cons.mpr ⟨.text _,
    List.forall_mem_cons.mpr ⟨posted, List.forall_mem_singleton.mpr entries⟩⟩⟩

/-! From a definition to the calls that it asks for -/

omit [Stack] in
theorem onlyKey_of_choices {m : Mapping} {key : String} {v : Value} (only : choices m = [(key, v)]) :
    OnlyKey m key v := by
  refine ⟨(mem_choices_iff.mp (only ▸ List.mem_singleton_self _)).2, fun other known different => ?_⟩
  cases found : m.field? other with
  | none => rfl
  | some w =>
    have chosen := mem_choices_iff.mpr ⟨known, found⟩
    rw [only, List.mem_singleton] at chosen
    exact absurd (congrArg Prod.fst chosen) different

theorem applyStep_ok {q q' : Query C} {index : Nat} {v : Value} (applied : q.applyStep index v = .ok q') :
    ∃ c, AsksFor v c ∧ c.apply q = .ok q' := by
  cases v with
  | map m =>
    by_cases one : (choices m).length = 1
    · obtain ⟨⟨key, v⟩, only⟩ := List.length_eq_one_iff.mp one
      rw [applyStep_chosen only] at applied
      have key_mem := choices_key only
      have alone := onlyKey_of_choices only
      -- the last case of `applyKey` is the only step key that it does not name
      simp only [stepKeys, List.mem_cons, List.not_mem_nil, or_false] at key_mem
      rcases key_mem with rfl | rfl | rfl | rfl
      · exact ⟨_, .go alone, applied⟩
      · exact ⟨_, .waitFor alone, applied⟩
      · exact ⟨_, .groupBy alone, applied⟩
      · exact ⟨_, .select alone, applied⟩
    · rw [applyStep_ambiguous one] at applied
      cases applied
  | _ => cases applied

theorem applySteps_ok {q q' : Query C} {index : Nat} {entries : List Value}
    (applied : q.applySteps index entries = .ok q') :
    ∃ calls, List.Forall₂ AsksFor entries calls ∧ q.grow calls = .ok q' := by
  induction entries generalizing q index with
  | nil => exact ⟨[], .nil, applied⟩
  | cons v rest ih =>
    obtain ⟨q₁, first, others⟩ := bind_ok_iff.mp applied
    obtain ⟨c, asks, done⟩ := applyStep_ok first
    obtain ⟨calls, more, grown⟩ := ih others
    exact ⟨c :: calls, .cons asks more, bind_ok_iff.mpr ⟨q₁, done, grown⟩⟩

omit [Stack] in
theorem not_eval_of_asks {entries : List Value} {calls : List (Call C)}
    (asks : List.Forall₂ AsksFor entries calls) (argument : EvalArgument C) : .eval argument ∉ calls := by
  induction asks with
  | nil => exact List.not_mem_nil
  | cons asked _ ih =>
    rw [List.mem_cons, not_or]
    refine ⟨?_, ih⟩
    rintro rfl
    cases asked

theorem ofMapping_ok {m : Mapping} {q : Query C} (loaded : ofMapping m = .ok q) :
    ∃ entries calls, Lists m entries ∧ List.Forall₂ AsksFor entries calls ∧
      build ((m.field? "url").getD .null) ((m.field? "method").getD (.text "GET"))
        ((m.field? "post_data").getD .null) calls = .ok q := by
  obtain ⟨q₀, started, applied⟩ := bind_ok_iff.mp loaded
  cases listed : m.field? "steps" with
  | none =>
    rw [listed] at applied
    cases applied
    exact ⟨[], [], .inr ⟨rfl, by rw [listed]; rfl⟩, .nil, bind_ok_iff.mpr ⟨_, started, rfl⟩⟩
  | some v =>
    rw [listed, Option.getD_some] at applied
    split at applied
    · obtain ⟨calls, asks, grown⟩ := applySteps_ok applied
      exact ⟨_, calls, .inl listed, asks, bind_ok_iff.mpr ⟨q₀, started, grown⟩⟩
    · split at applied
      · rename_i empty
        cases applied
        exact ⟨[], [], .inr ⟨rfl, by rw [listed]; exact empty⟩, .nil, bind_ok_iff.mpr ⟨_, started, rfl⟩⟩
      · cases applied

/-- A query whose calls pass no callback has no step that calls one. -/
theorem free_of_grow {q q' : Query C} {calls : List (Call C)} (grown : q.grow calls = .ok q')
    (plain : ∀ argument, .eval argument ∉ calls) (free : ∀ callback, .eval callback ∉ q.steps) :
    ∀ callback, .eval callback ∉ q'.steps := by
  induction calls generalizing q with
  | nil =>
    cases grown
    exact free
  | cons c rest ih =>
    rw [grow_cons] at grown
    obtain ⟨q₁, first, others⟩ := bind_ok_iff.mp grown
    obtain ⟨s, appends, rfl⟩ := apply_ok_iff.mp first
    refine ih others (fun argument mem => plain argument (List.mem_cons_of_mem _ mem)) fun callback mem => ?_
    rw [steps_append, List.mem_append, List.mem_singleton] at mem
    rcases mem with old | rfl
    · exact free callback old
    · cases appends with
      | eval => exact plain _ List.mem_cons_self

theorem free_of_ofMapping {m : Mapping} {q : Query C} (loaded : ofMapping m = .ok q) :
    ∀ callback, .eval callback ∉ q.steps := by
  obtain ⟨entries, calls, -, asks, built⟩ := ofMapping_ok loaded
  obtain ⟨q₀, started, grown⟩ := bind_ok_iff.mp built
  obtain ⟨url, method, -, -, -, -, rfl⟩ := startingAt_ok_iff.mp started
  exact free_of_grow grown (not_eval_of_asks asks) (by simp [steps])

/-- Steps that definitions can ask for. -/
inductive Definable : Step C → Prop where
  | navigate (visit) : Definable (.navigate visit)
  | waitFor (selector) {timeoutMs} (timeout : IsTimeout timeoutMs) : Definable (.waitFor selector timeoutMs)
  | groupBy (selector) : Definable (.groupBy selector)
  | select (fields) : Definable (.select fields)

omit [Stack] in
theorem Definable.not_eval {s : Step C} (definable : Definable s) (callback : C) : s ≠ .eval callback := by
  rintro rfl
  cases definable

theorem definable_of_ofMapping {m : Mapping} {q : Query C} (loaded : ofMapping m = .ok q) :
    ∀ s ∈ q.steps, Definable s := by
  obtain ⟨entries, calls, -, -, built⟩ := ofMapping_ok loaded
  obtain ⟨visit, later, steps, -, -, each⟩ := (validSteps_of_build built).start
  intro s mem
  have free := free_of_ofMapping loaded
  rw [steps] at mem free
  rcases List.mem_cons.mp mem with rfl | inside
  · exact .navigate visit
  · cases each s inside with
    | navigate nonblank => exact .navigate _
    | waitFor nonblank timeout => exact .waitFor _ timeout
    | groupBy nonblank => exact .groupBy _
    | select valid => exact .select _
    | eval callback => exact absurd mem (free callback)

/-- Accepted calls add one step each. -/
theorem length_of_grow {q q' : Query C} {calls : List (Call C)} (grown : q.grow calls = .ok q') :
    ∃ more, q'.steps = q.steps ++ more ∧ more.length = calls.length := by
  induction calls generalizing q with
  | nil =>
    cases grown
    exact ⟨[], (List.append_nil _).symm, rfl⟩
  | cons c rest ih =>
    obtain ⟨q₁, applied, grown⟩ := bind_ok_iff.mp grown
    obtain ⟨s, -, rfl⟩ := apply_ok_iff.mp applied
    obtain ⟨more, steps, length⟩ := ih grown
    refine ⟨s :: more, ?_, by rw [List.length_cons, List.length_cons, length]⟩
    rw [steps, steps_append, List.append_assoc, List.singleton_append]

/-- The step at a position is the one that the call at that position adds to the query before it. -/
theorem step_of_grow {q q' : Query C} {calls : List (Call C)} (grown : q.grow calls = .ok q') {i : Nat}
    (inside : i < calls.length) : ∃ before s, q.grow (calls.take i) = .ok before ∧
      calls[i].apply before = .ok (before.append s) ∧ q'.steps[q.steps.length + i]? = some s := by
  have split : calls = calls.take i ++ calls[i] :: calls.drop (i + 1) := by
    rw [List.getElem_cons_drop, List.take_append_drop]
  rw [split] at grown
  simp only [grow, List.foldlM_append, List.foldlM_cons] at grown
  obtain ⟨before, front, grown⟩ := bind_ok_iff.mp grown
  obtain ⟨q₁, applied, rest⟩ := bind_ok_iff.mp grown
  obtain ⟨s, -, rfl⟩ := apply_ok_iff.mp applied
  obtain ⟨more, steps, length⟩ := length_of_grow front
  obtain ⟨after, steps', -⟩ := length_of_grow rest
  refine ⟨before, s, front, applied, ?_⟩
  have position : more.length = i := by
    rw [length, List.length_take]
    omega
  rw [steps', steps_append, steps, ← position]
  simp

/-- A query without callbacks whose selections name each of their fields once can be written as a definition
that loads as that query; and a definition that loads gives what the calls build that its entries ask for,
each by its only step key, with one step for each entry. -/
theorem definitions_say_what_calls_do :
    (∀ url method postData calls (q : Query C), build url method postData calls = .ok q →
      (∀ callback, .eval callback ∉ q.steps) →
      (∀ fields, .select fields ∈ q.steps → (fields.map (·.name)).Nodup) →
      (q.start.postData.Proper → (Value.map q.rendering).Proper) ∧ ofMapping q.rendering = .ok q) ∧
    ∀ (m : Mapping) (q : Query C), ofMapping m = .ok q →
      ∃ (url method : String) (postData : Value) (entries : List Value) (calls : List (Call C)),
        m.field? "url" = some (.text url) ∧
        (m.field? "method").getD (.text "GET") = .text method ∧
        (m.field? "post_data").getD .null = postData ∧
        q.steps[0]? = some (.navigate ⟨url, method, postData⟩) ∧
        Lists m entries ∧ q.steps.length = entries.length + 1 ∧
        List.Forall₂ AsksFor entries calls ∧ (∀ argument, .eval argument ∉ calls) ∧
        build (.text url) (.text method) postData calls = .ok q ∧
        ∀ i, ∀ inside : i < calls.length, ∃ before s,
          build (.text url) (.text method) postData (calls.take i) = .ok before ∧
          calls[i].apply before = .ok (before.append s) ∧ q.steps[i + 1]? = some s := by
  constructor
  · intro url method postData calls q built plain distinct
    have valid := validSteps_of_build built
    exact ⟨rendering_proper valid distinct, ofMapping_rendering valid plain⟩
  · intro m q loaded
    obtain ⟨entries, calls, lists, asks, built⟩ := ofMapping_ok loaded
    obtain ⟨q₀, started, grown⟩ := bind_ok_iff.mp built
    obtain ⟨url, method, has_url, nonblank, has_method, allowed, rfl⟩ := startingAt_ok_iff.mp started
    obtain ⟨more, steps, length⟩ := length_of_grow grown
    have count : calls.length = entries.length := asks.length_eq.symm
    have given : m.field? "url" = some (.text url) := by
      cases found : m.field? "url" with
      | none =>
        rw [found] at has_url
        cases has_url
      | some v =>
        rw [found] at has_url
        exact congrArg some has_url
    rw [has_url, has_method] at built started
    refine ⟨url, method, _, entries, calls, given, has_method, rfl, ?_, lists, ?_, asks, ?_, built, ?_⟩
    · rw [steps]
      rfl
    · rw [steps, List.length_append, length, count]
      exact Nat.add_comm _ _
    · exact not_eval_of_asks asks
    · intro i inside
      obtain ⟨before, s, front, applied, here⟩ := step_of_grow grown inside
      rw [Nat.add_comm] at here
      exact ⟨before, s, bind_ok_iff.mpr ⟨_, started, front⟩, applied, here⟩

end

/-- Two pages, the second visited after a selection from the first. -/
theorem definitions_say_what_calls_do_of_two_pages :
    ∃ q : Query Empty, build (.text "http://shop/") (.text "GET") .null
        [.waitFor (.text "li") (.int 500),
          .select (.map [(.text "link", .map [(.text "path", .text "a"), (.text "attr", .text "href")])]),
          .go (.text "http://shop/2")] = .ok q ∧
      (Value.map q.rendering).Proper ∧ ofMapping q.rendering = .ok q ∧
      ∃ entries calls, Lists q.rendering entries ∧ List.Forall₂ AsksFor entries calls ∧
        build (.text "http://shop/") (.text "GET") .null calls = .ok q ∧ entries.length = 3 := by
  have built : build (.text "http://shop/") (.text "GET") .null
      [.waitFor (.text "li") (.int 500),
        .select (.map [(.text "link", .map [(.text "path", .text "a"), (.text "attr", .text "href")])]),
        .go (.text "http://shop/2")] = .ok (⟨⟨"http://shop/", "GET", .null⟩,
          [.waitFor "li" (.int 500), .select [⟨"link", "a", some "href"⟩],
            .navigate ⟨"http://shop/2", "GET", .null⟩]⟩ : Query Empty) := rfl
  obtain ⟨written, read⟩ := definitions_say_what_calls_do (C := Empty)
  obtain ⟨proper, loaded⟩ := written _ _ _ _ _ built nofun (by simp [steps])
  obtain ⟨url, method, postData, entries, calls, given, named, posted, -, lists, count, asks, -, again, -⟩ :=
    read _ _ loaded
  cases given
  cases named
  cases posted
  exact ⟨_, built, proper .null, loaded, entries, calls, lists, asks, again, Nat.succ.inj count.symm⟩

end PageHarvest.Query
