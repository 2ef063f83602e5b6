import PageHarvest.Proofs.Json.Reader
import PageHarvest.Proofs.Query.Loading
import PageHarvest.Proofs.Query.Rendering
import PageHarvest.Proofs.Service.Answer
import PageHarvest.Static.Page

/-!
Requests with a definition of their own. A definition that is read from JSON has texts for keys and
integers and levels that can be shown, so it is either a query or refused as a definition; and whatever comes of
replaying the query is answered.
-/
namespace PageHarvest
open Json (Expressible)

namespace Json.Expressible

variable {room : Nat}

theorem mono {more : Nat} {v : Value} (expressible : Expressible room v) (further : room ≤ more) :
    Expressible more v := by
  induction expressible generalizing more with
  | null => exact .null
  | bool b => exact .bool b
  | int short => exact .int short
  | float x => exact .float x
  | text s => exact .text s
  | @list room items _ wider =>
    obtain ⟨more, rfl⟩ := Nat.exists_eq_add_one_of_ne_zero (Nat.ne_zero_of_lt further)
    exact .list fun v mem => wider v mem (Nat.le_of_succ_le_succ further)
  | @map room m named _ wider =>
    obtain ⟨more, rfl⟩ := Nat.exists_eq_add_one_of_ne_zero (Nat.ne_zero_of_lt further)
    exact .map named fun e mem => wider e mem (Nat.le_of_succ_le_succ further)

theorem shown [Stack] {v : Value} (expressible : Expressible Stack.json v) : v.unshown? = none :=
  expressible.unshownWithin?_eq_none Stack.json_lt_shown

variable {m : Mapping}

theorem key (expressible : Expressible room (.map m)) {e : Value × Value} (mem : e ∈ m) :
    ∃ k, e.1 = .text k := by
  cases expressible with
  | map named _ => exact named e mem

theorem entry (expressible : Expressible room (.map m)) {e : Value × Value} (mem : e ∈ m) :
    Expressible room e.2 := by
  cases expressible with
  | map _ each => exact (each e mem).mono (Nat.le_succ _)

theorem key_shown [Stack] (expressible : Expressible room (.map m)) {e : Value × Value} (mem : e ∈ m) :
    e.1.unshown? = none := by
  obtain ⟨k, text⟩ := expressible.key mem
  rw [text, Value.unshown?_text]

/-- A list of some of the keys has no more levels than the mapping. -/
theorem keys (expressible : Expressible room (.map m)) {ks : List Value}
    (listed : ∀ {k}, k ∈ ks → k ∈ m.map (·.1)) : Expressible room (.list ks) := by
  cases expressible with
  | map named _ =>
    refine .list fun k mem => ?_
    obtain ⟨e, inside, rfl⟩ := List.mem_map.mp (listed mem)
    obtain ⟨k, text⟩ := named e inside
    rw [text]
    exact .text k

theorem item {items : List Value} (expressible : Expressible room (.list items)) {v : Value}
    (mem : v ∈ items) : Expressible room v := by
  cases expressible with
  | list each => exact (each v mem).mono (Nat.le_succ _)

theorem field (expressible : Expressible room (.map m)) {name : String} {v : Value}
    (found : m.field? name = some v) : Expressible room v := by
  obtain ⟨e, first, rfl⟩ := Option.map_eq_some_iff.mp found
  exact expressible.entry (List.mem_of_find?_eq_some first)

theorem fieldOr (expressible : Expressible room (.map m)) (name : String) {v : Value}
    (other : Expressible room v) : Expressible room ((m.field? name).getD v) := by
  cases found : m.field? name with
  | none => exact other
  | some _ => exact expressible.field found

end Json.Expressible

namespace Query
variable [Stack] {C : Type}

/-! Definitions without faults -/

theorem not_stepFault {s : Value} (expressible : Expressible Stack.json s) (f : Failure) :
    ¬ StepFault s f := by
  intro fault
  cases fault with
  | @unordered m message ambiguous several mixed told =>
    refine mixed .text fun k mem => ?_
    obtain ⟨e, inside, rfl⟩ := List.mem_map.mp mem
    obtain ⟨k, text⟩ := expressible.key inside
    rw [text]
    rfl
  | unlisted ambiguous ordered hidden =>
    rw [(expressible.keys (Value.perm_of_sorted? ordered).mem_iff.mp).shown] at hidden
    cases hidden
  | selector only selects hidden =>
    have chosen := (mem_choices_iff.mp (only ▸ List.mem_singleton_self _)).2
    rw [(expressible.field chosen).shown] at hidden
    cases hidden
  | timeout only selected given other hidden =>
    rw [(expressible.field given).shown] at hidden
    cases hidden
  | field only named defined hidden =>
    have chosen := (mem_choices_iff.mp (only ▸ List.mem_singleton_self _)).2
    rw [(expressible.field chosen).key_shown (List.mem_append_right _ List.mem_cons_self)] at hidden
    cases hidden

/-- A definition that is no query is refused as a definition. -/
theorem not_escapes_expressible {m : Mapping} (expressible : ∀ e ∈ m, Expressible Stack.json e.2)
    (f : Failure) : ¬ Escapes (ofMapping m : Except Failure (Query C)) f := by
  have field {name : String} {v : Value} (found : m.field? name = some v) : Expressible Stack.json v := by
    obtain ⟨e, first, rfl⟩ := Option.map_eq_some_iff.mp found
    exact expressible e (List.mem_of_find?_eq_some first)
  rw [escapes_ofMapping_iff]
  intro fault
  cases fault with
  | method started given hidden =>
    rw [(field given).shown] at hidden
    cases hidden
  | step started listed applied fault =>
    exact not_stepFault ((field listed).item (List.mem_append_right _ List.mem_cons_self)) f fault

end Query

namespace Service

section
variable [Stack] {W P H C : Type}

omit [Stack] in
theorem expressible_of_definitionOf {room : Nat} {body : Value} {m : Mapping}
    (expressible : Expressible room body) (valid : definitionOf body = .ok m) :
    ∀ e ∈ m, Expressible room e.2 := by
  cases body with
  | map b =>
    unfold definitionOf at valid
    dsimp only at valid
    split at valid
    · cases valid
      simp only [List.forall_mem_cons]
      exact ⟨expressible.fieldOr "url" .null, expressible.fieldOr "method" (.text _),
        expressible.fieldOr "post_data" .null, expressible.fieldOr "steps" (expressible.keys nofun),
        List.forall_mem_nil _⟩
    · cases valid
  | _ => cases valid

section Run
variable (h : Host W P H C) (opening : Defaults → Act W P) (d : Defaults) (runId : String) (w : W)

omit [Stack] in
theorem run_query {q : Query C} (free : ∀ callback, .eval callback ∉ q.steps) :
    ∃ outcome response w',
      (q.replay (h.bind [("url", .text q.start.url)]) d (opening d) runId).runOn w = (outcome, w') ∧
      run h (.ok d) opening runId (.ok q) w = (.ok response, w') ∧ Tells outcome response := by
  rcases replayed : (q.replay (h.bind [("url", .text q.start.url)]) d (opening d) runId).runOn w
    with ⟨outcome, w'⟩
  obtain ⟨response, answered, tells⟩ := tells_of_outcome fun rows (same : outcome = .ok rows) =>
    texts_of_replay free (same ▸ replayed)
  refine ⟨outcome, response, w', rfl, ?_, tells⟩
  simp only [run, execute, replayed, answered]

omit [Stack] in
theorem run_refused {f : Failure} (construction : f.cause.isConstruction = true) :
    run h (.ok d) opening runId (accepted (.error f : Except Failure (Query C))) w =
      (.error (.rejected 400 f.message), w) := by
  simp only [accepted, Except.mapError, construction, if_true, run]

/-- A request whose definition is no query is refused with status 400, and no other valid request is.
What comes of replaying the query of another is answered, be it records or any failure at all. -/
theorem inline_run_answers {text : List Char} {body : Value} {m : Mapping}
    (given : Json.read text = .ok body) (valid : definitionOf body = .ok m) :
    ((∃ detail w', runInline h (.ok d) opening runId body w = (.error (.rejected 400 detail), w')) ↔
      ∃ f, (Query.ofMapping m : Except Failure (Query C)) = .error f) ∧
    (∀ f, (Query.ofMapping m : Except Failure (Query C)) = .error f →
      runInline h (.ok d) opening runId body w = (.error (.rejected 400 f.message), w)) ∧
    (∀ q, (Query.ofMapping m : Except Failure (Query C)) = .ok q → ∃ outcome response w',
      (q.replay (h.bind [("url", .text q.start.url)]) d (opening d) runId).runOn w = (outcome, w') ∧
      runInline h (.ok d) opening runId body w = (.ok response, w') ∧ Tells outcome response) := by
  have expressible := expressible_of_definitionOf (Json.expressible_of_read given) valid
  have asked : (inlineQuery body : Except Refusal (Query C)) = accepted (Query.ofMapping m) := by
    rw [inlineQuery, valid]
    rfl
  unfold runInline
  rw [asked]
  cases loaded : (Query.ofMapping m : Except Failure (Query C)) with
  | error f =>
    have construction : f.cause.isConstruction = true := by
      by_contra other
      exact Query.not_escapes_expressible expressible f ⟨loaded, Bool.eq_false_iff.mpr other⟩
    have refused := run_refused h opening d runId w construction
    refine ⟨⟨fun _ => ⟨f, rfl⟩, fun _ => ⟨_, _, refused⟩⟩, ?_, nofun⟩
    rintro f' ⟨⟩
    exact refused
  | ok q =>
    obtain ⟨outcome, response, w', replayed, answered, tells⟩ :=
      run_query h opening d runId w (Query.free_of_ofMapping loaded)
    refine ⟨⟨?_, nofun⟩, nofun, ?_⟩
    · rintro ⟨detail, w', refused⟩
      cases answered.symm.trans refused
    · rintro q' ⟨⟩
      exact ⟨outcome, response, w', replayed, answered, tells⟩

end Run
end

/-- A request for the paragraph of a page. -/
def paragraphRequest : List Char :=
  "\x7b\"url\": \"http://a/\", \"steps\": [\x7b\"select\": \x7b\"t\": \"p\"\x7d\x7d]\x7d".toList

def paragraphWorld : StaticWorld :=
  { site := [("http://a/", { markup := "<p>1</p>" })], start := 0, now := 0 }

/-- What its replay comes to. -/
def paragraphOutcome (q : Query Callback) : Except Failure (List Record) :=
  ((q.replay (StaticWorld.host.bind [("url", .text q.start.url)]) {} (StaticWorld.newPage true {}) "1").runOn
    paragraphWorld).1

theorem inline_run_answers_of_paragraph : ∃ body m, Json.read paragraphRequest = .ok body ∧
    definitionOf body = .ok m ∧ ∃ response w',
      runInline StaticWorld.host (.ok {}) (StaticWorld.newPage true) "1" body paragraphWorld =
        (.ok response, w') ∧
      response.success = true ∧ response.results = some [[("t", some "1")]] := by
  obtain ⟨body, given, passes⟩ := @exists_ok_of_any _ _ (Json.read paragraphRequest)
    (fun body => (definitionOf body).toOption.any fun m => (Query.ofMapping m).toOption.any
      fun q => (paragraphOutcome q).toOption.any fun rows => rows.mapM texts? == some [[("t", some "1")]])
    (by decide +kernel)
  obtain ⟨m, valid, passes⟩ := exists_ok_of_any passes
  obtain ⟨q, loaded, passes⟩ := exists_ok_of_any passes
  obtain ⟨rows, outcome, passes⟩ := exists_ok_of_any passes
  refine ⟨body, m, given, valid, ?_⟩
  obtain ⟨-, -, answered⟩ := inline_run_answers StaticWorld.host (StaticWorld.newPage true) {} "1"
    paragraphWorld given valid
  obtain ⟨out, response, w', replayed, answer, tells⟩ := answered q loaded
  rw [paragraphOutcome, replayed] at outcome
  subst outcome
  cases tells with
  | records results =>
    rw [mapM_texts?, beq_iff_eq] at passes
    exact ⟨_, w', answer, rfl, passes⟩

end Service
end PageHarvest
