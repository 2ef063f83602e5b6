import PageHarvest.Proofs.Replay.Agreement
import PageHarvest.Proofs.Replay.Steps
import PageHarvest.Service.Api

/-!
What the service answers to a replay. A failure is told with a text, and with the code of the kind that
it is a case of. Pages give texts or nothing, so an answer can hold every record that was read from them.
-/
namespace PageHarvest

namespace Cause

/-- The code that a cause goes by. Of the kinds in the taxonomy that it is a case of, the first one
counts; what is a case of none of them is an exception. -/
inductive Coded (c : Cause) : String → Prop where
  | kind {before k code after} (listed : taxonomy = before ++ (k, code) :: after)
      (case_of : c.isA k = true) (first : ∀ e ∈ before, c.isA e.1 = false) : Coded c code
  | exception (none : ∀ e ∈ taxonomy, c.isA e.1 = false) : Coded c "exception"

theorem coded_code (c : Cause) : c.Coded c.code := by
  unfold code
  cases found : taxonomy.find? fun e => c.isA e.1 with
  | none =>
    refine .exception fun e mem => ?_
    exact Bool.eq_false_iff.mpr (List.find?_eq_none.mp found e mem)
  | some e =>
    obtain ⟨case_of, before, after, listed, others⟩ := List.find?_eq_some_iff_append.mp found
    refine .kind listed case_of fun e' mem => ?_
    simpa using others e' mem

theorem name_ne_empty (c : Cause) : c.name ≠ "" := by
  cases c with
  | transport fault _ =>
    cases fault with
    | other name _ => exact name.filled
    | _ => exact of_decide_eq_true rfl
  | outside name _ _ => exact name.filled
  | _ => exact of_decide_eq_true rfl

end Cause

theorem Failure.report_message_ne_empty (f : Failure) : f.report.message ≠ "" := by
  unfold report
  dsimp only
  split
  · exact f.cause.name_ne_empty
  · next nonempty => simpa using nonempty

namespace Service
open Replay Handler
variable {W P H C : Type}

/-! Records of texts -/

theorem texts?_asRecord (texts : Texts) : texts? (asRecord texts) = some texts := by
  induction texts with
  | nil => rfl
  | cons e rest ih =>
    have first : textOf? (Value.ofText? e.2) = some e.2 := by
      cases e.2 <;> rfl
    unfold asRecord texts? at ih ⊢
    rw [List.map_cons, List.mapM_cons, ih, first]
    rfl

theorem mapM_texts? (results : List Texts) :
    (results.map asRecord).mapM texts? = some results := by
  induction results with
  | nil => rfl
  | cons texts rest ih =>
    rw [List.map_cons, List.mapM_cons, texts?_asRecord, ih]
    rfl

/-- A record whose values are texts or nothing is one that an answer can hold. -/
theorem exists_texts {r : Record} (each : ∀ e ∈ r, ∃ t, e.2 = Value.ofText? t) :
    ∃ texts, r = asRecord texts := by
  induction r with
  | nil => exact ⟨[], rfl⟩
  | cons e rest ih =>
    obtain ⟨⟨t, first⟩, others⟩ := List.forall_mem_cons.mp each
    obtain ⟨texts, rfl⟩ := ih others
    exact ⟨(e.1, t) :: texts, congrArg (· :: _) (Prod.ext rfl first)⟩

section Replay
variable {h : Host W P H C} {d : Defaults} {w w' : W}

theorem texts_of_readFields {page : P} {root : Option H} {fields : List Field} {record r : Record}
    (before : ∀ e ∈ record, ∃ t, e.2 = Value.ofText? t)
    (read : (readFields h page root record fields).runOn w = (.ok r, w')) :
    ∀ e ∈ r, ∃ t, e.2 = Value.ofText? t := by
  induction fields generalizing record w with
  | nil =>
    cases read
    exact before
  | cons f rest ih =>
    obtain ⟨v, w₁, -, others⟩ := Act.runOn_bind_ok read
    exact ih (Table.forall_putBy before ⟨v, rfl⟩ fun _ _ => ⟨v, rfl⟩) others

theorem texts_of_readRecords {page : P} {fields : List Field} {roots : List (Option H)}
    {records : List Record} (read : (readRecords h page fields roots).runOn w = (.ok records, w')) :
    ∃ results : List Texts, records = results.map asRecord := by
  induction roots generalizing w records with
  | nil =>
    cases read
    exact ⟨[], rfl⟩
  | cons root rest ih =>
    obtain ⟨r, w₁, first, others⟩ := Act.runOn_bind_ok read
    obtain ⟨more, w₂, later, done⟩ := Act.runOn_bind_ok others
    cases done
    obtain ⟨texts, rfl⟩ := exists_texts (texts_of_readFields (List.forall_mem_nil _) first)
    obtain ⟨results, rfl⟩ := ih later
    exact ⟨texts :: results, rfl⟩

/-- Items that are records of texts. -/
def OfTexts (items : List Item) : Prop :=
  ∃ results : List Texts, items = (results.map asRecord).map Item.record

theorem OfTexts.runStep {index : Nat} {s : Step C} {state next : ReplayState P H}
    (texts : OfTexts state.results) (free : ∀ callback, s ≠ .eval callback)
    (run : (runStep h d Handler.standard index s state).runOn w = (.ok next, w')) :
    OfTexts next.results := by
  obtain ⟨e, makes⟩ := runStep_ok run
  cases makes with
  | selected read =>
    obtain ⟨before, results⟩ := texts
    obtain ⟨more, rfl⟩ := texts_of_readRecords read
    refine ⟨before ++ more, ?_⟩
    rw [List.map_append, List.map_append, ← results]
    rfl
  | called callback _ _ => exact absurd rfl (free callback)
  | _ => exact texts

theorem OfTexts.runSteps {index : Nat} {steps : List (Step C)} {state final : ReplayState P H}
    (texts : OfTexts state.results) (free : ∀ callback, .eval callback ∉ steps)
    (run : (runSteps h d Handler.standard index steps state).runOn w = (.ok final, w')) :
    OfTexts final.results := by
  induction steps generalizing index state w with
  | nil =>
    cases run
    exact texts
  | cons s rest ih =>
    obtain ⟨next, w₁, first, others⟩ := Act.runOn_bind_ok run
    have kept := texts.runStep (fun callback same => free callback (same ▸ List.mem_cons_self)) first
    exact ih kept (fun callback mem => free callback (List.mem_cons_of_mem s mem)) others

/-- A replay without callbacks gives records of texts. -/
theorem texts_of_replay {q : Query C} (free : ∀ callback, .eval callback ∉ q.steps)
    {opening : Act W P} {runId : String} {rows : List Record}
    (run : (q.replay h d opening runId).runOn w = (.ok rows, w')) :
    ∃ results : List Texts, rows = results.map asRecord := by
  obtain ⟨page, w₁, -, run⟩ := Act.runOn_bind_ok run
  obtain ⟨final, w₂, run, handed⟩ := execute_ok run
  obtain ⟨results, same⟩ := OfTexts.runSteps ⟨[], rfl⟩ free run
  rw [same, handOver_records] at handed
  cases handed
  exact ⟨results, rfl⟩

end Replay

/-! Answers -/

/-- What an answer says about the outcome of a replay. -/
inductive Tells : Except Failure (List Record) → Response → Prop where
  | records (results) : Tells (.ok (results.map asRecord))
      { success := true, results := some results, error := none, detail := none }
  | problem {f detail} (told : detail.message ≠ "") (coded : f.cause.Coded detail.code) :
      Tells (.error f)
        { success := false, results := none, error := some detail.message, detail := some detail }

theorem tells_of_outcome {outcome : Except Failure (List Record)}
    (texts : ∀ rows, outcome = .ok rows → ∃ results : List Texts, rows = results.map asRecord) :
    ∃ response, Response.ofOutcome outcome = .ok response ∧ Tells outcome response := by
  cases outcome with
  | ok rows =>
    obtain ⟨results, rfl⟩ := texts rows rfl
    refine ⟨_, ?_, .records results⟩
    rw [Response.ofOutcome, mapM_texts?]
  | error f => exact ⟨_, rfl, .problem f.report_message_ne_empty f.cause.coded_code⟩

end Service
end PageHarvest
