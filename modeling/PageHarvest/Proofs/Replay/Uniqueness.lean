import PageHarvest.Proofs.Replay.Meaning
import PageHarvest.Proofs.Replay.Polling

/-!
What steps mean is one thing only. Pages answer a call in one way, so that the calls, the outcome and
the world of every relation between worlds follow from the world that it starts in.
-/
namespace PageHarvest.Replay
open Handler
variable {W P H C K κ α : Type}

/-- The world before leaves one way to go on. -/
def Definite (ask : W → List κ → α → W → Prop) : Prop :=
  ∀ ⦃w calls out w' calls₂ out₂ w₂⦄, ask w calls out w' → ask w calls₂ out₂ w₂ →
    calls₂ = calls ∧ out₂ = out ∧ w₂ = w'

/-- What a relation says of a world is this and nothing else. -/
def Only (ask : W → List κ → α → W → Prop) (w : W) (calls : List κ) (out : α) (w' : W) : Prop :=
  ∀ calls₂ out₂ w₂, ask w calls₂ out₂ w₂ ↔ calls₂ = calls ∧ out₂ = out ∧ w₂ = w'

theorem Definite.only {ask : W → List κ → α → W → Prop} (definite : Definite ask) {w w' : W} {calls : List κ}
    {out : α} (holds : ask w calls out w') : Only ask w calls out w' := by
  intro calls₂ out₂ w₂
  constructor
  · exact fun other => definite holds other
  · rintro ⟨rfl, rfl, rfl⟩
    exact holds

theorem definite_answers (h : Host W P H C) (page : P) (call : PageCall H) (act : Act W α) :
    Definite (Answers h page call act) := by
  rintro w calls out w' calls₂ out₂ w₂ ⟨rfl, run⟩ ⟨rfl, run₂⟩
  cases run.symm.trans run₂
  exact ⟨rfl, rfl, rfl⟩

theorem InTurn.definite {ι : Type} {ask : ι → W → List κ → Except Failure α → W → Prop}
    (each : ∀ i, Definite (ask i)) (is : List ι) : Definite (InTurn ask is) := by
  intro w calls out w' calls₂ out₂ w₂ first second
  induction first generalizing calls₂ out₂ w₂ with
  | nil w =>
    cases second
    exact ⟨rfl, rfl, rfl⟩
  | @next i rest w w₁ w₂ calls more a out answered others ih =>
    cases second with
    | next answered' others' =>
      obtain ⟨rfl, same, rfl⟩ := each i answered answered'
      cases same
      obtain ⟨rfl, rfl, rfl⟩ := ih others'
      exact ⟨rfl, rfl, rfl⟩
    | stop failed =>
      cases (each i answered failed).2.1
  | @stop i rest w w₁ calls f failed =>
    cases second with
    | next answered others => cases (each i failed answered).2.1
    | stop failed' =>
      obtain ⟨rfl, same, rfl⟩ := each i failed failed'
      cases same
      exact ⟨rfl, rfl, rfl⟩

section Waits
variable {h : Host W P H C} {wait : Wait} {page : P} {root : Option H}

/-- The first call of a wait is the same in all ways to go on, and so is the answer to it. -/
theorem called_unique {ms ms₂ : Int} {w w₁ w₂ : W} {calls calls₂ : List (NotedCall P H)}
    {out out₂ : Except Failure Unit} (told : callTimeout h.precision wait.deadline (h.now w) = .ok ms)
    (asked : WaitedFor h page wait.selector ms root w calls out w₁)
    (told₂ : callTimeout h.precision wait.deadline (h.now w) = .ok ms₂)
    (asked₂ : WaitedFor h page wait.selector ms₂ root w calls₂ out₂ w₂) :
    calls₂ = calls ∧ out₂ = out ∧ w₂ = w₁ := by
  cases told.symm.trans told₂
  exact definite_answers h page _ _ asked asked₂

/-- Two ways to go on begin with the same call; the clock decides what follows it. -/
theorem Asked.definite : Definite (Asked h wait page root) := by
  intro w calls out w' calls₂ out₂ w₂ first second
  induction first generalizing calls₂ out₂ w₂ with
  | found told asked => cases second <;> grind [called_unique]
  | raised told asked other => cases second <;> grind [called_unique]
  | expired told asked timeout late => cases second <;> grind [called_unique]
  | restless told asked timeout early refused => cases second <;> grind [called_unique]
  | again told asked timeout early taken later ih => cases second <;> grind [called_unique]
  | unclocked fault => cases second <;> grind

theorem Polled.definite (n : Nat) : Definite (Polled h wait page root n) := by
  intro w calls out w' calls₂ out₂ w₂ first second
  induction first generalizing calls₂ out₂ w₂ with
  | found told asked => cases second <;> grind [called_unique]
  | raised told asked other => cases second <;> grind [called_unique]
  | expired told asked timeout late => cases second <;> grind [called_unique]
  | restless told asked timeout early refused => cases second <;> grind [called_unique]
  | again told asked timeout early taken later ih => cases second <;> grind [called_unique]
  | unclocked fault => cases second <;> grind

end Waits

/-- Waits that can only go one way. -/
def Waiting.Definite (waits : Waiting W P H) : Prop :=
  ∀ selector timeoutMs deadline root, Replay.Definite (waits selector timeoutMs deadline root)

section Steps
variable {h : Host W P H C} {d : Defaults} {page : P}

theorem Awaited.definite : Waiting.Definite (Awaited h d page) := by
  intro selector timeoutMs deadline root w calls out w' calls₂ out₂ w₂ first second
  cases first with
  | asked interval asked =>
    cases second with
    | asked interval₂ asked₂ =>
      cases interval.symm.trans interval₂
      exact Asked.definite asked asked₂
    | unclocked fault => cases interval.symm.trans fault
  | unclocked fault =>
    cases second with
    | asked interval₂ asked₂ => cases interval₂.symm.trans fault
    | unclocked fault₂ =>
      cases fault.symm.trans fault₂
      exact ⟨rfl, rfl, rfl⟩

theorem Attended.definite : Waiting.Definite (Attended h d page) := by
  intro selector timeoutMs deadline root w calls out w' calls₂ out₂ w₂ first second
  cases first with
  | polled interval polled =>
    cases second with
    | polled interval₂ polled₂ =>
      cases interval.symm.trans interval₂
      exact Polled.definite _ polled polled₂
    | unclocked fault => cases interval.symm.trans fault
  | unclocked fault =>
    cases second with
    | polled interval₂ polled₂ => cases interval₂.symm.trans fault
    | unclocked fault₂ =>
      cases fault.symm.trans fault₂
      exact ⟨rfl, rfl, rfl⟩

theorem RecordRead.definite (fields : List Field) (root : Option H) :
    Definite (RecordRead h page fields root) := by
  rintro w calls out w' calls₂ out₂ w₂ ⟨values, asked, rfl⟩ ⟨values₂, asked₂, rfl⟩
  have one : Definite (InTurn (Extracted h page root) fields) :=
    InTurn.definite (fun f => definite_answers h page _ _) fields
  obtain ⟨rfl, rfl, rfl⟩ := one asked asked₂
  exact ⟨rfl, rfl, rfl⟩

variable {waits : Waiting W P H} (one : waits.Definite)
include one

theorem StepMeans.definite (roots : List (Option H)) (s : Step C) :
    Definite (StepMeans h d waits page roots s) := by
  intro w calls out w' calls₂ out₂ w₂ first second
  have visit {visit : Visit} {w w₁ w₂ : W} {calls calls₂ out out₂} (asked : Navigated h page visit w calls out w₁)
      (asked₂ : Navigated h page visit w calls₂ out₂ w₂) : calls₂ = calls ∧ out₂ = out ∧ w₂ = w₁ :=
    definite_answers h page _ _ asked asked₂
  cases first with
  | visited asked shown accepted => cases second <;> grind
  | unreachable asked => cases second <;> grind
  | blank asked nothing => cases second <;> grind
  | refused asked shown status bad => cases second <;> grind
  | waited timeout told asked =>
    cases second with
    | waited timeout₂ told₂ asked₂ =>
      cases timeout.symm.trans timeout₂
      cases told.symm.trans told₂
      obtain ⟨rfl, rfl, rfl⟩ := InTurn.definite (one _ _ _) roots asked asked₂
      exact ⟨rfl, rfl, rfl⟩
    | untimed fault =>
      rw [timeout] at fault
      cases told.symm.trans fault
  | untimed fault =>
    cases second with
    | waited timeout told asked =>
      rw [timeout] at fault
      cases told.symm.trans fault
    | untimed fault₂ =>
      cases fault.symm.trans fault₂
      exact ⟨rfl, rfl, rfl⟩
  | grouped asked =>
    cases second with
    | grouped asked₂ =>
      obtain ⟨rfl, rfl, rfl⟩ := InTurn.definite (fun _ => definite_answers h page _ _) roots asked asked₂
      exact ⟨rfl, rfl, rfl⟩
  | selected asked =>
    cases second with
    | selected asked₂ => exact InTurn.definite (RecordRead.definite _) roots asked asked₂

/-- Steps mean one thing. -/
theorem Meaning.definite {reads : Reads h page K} (before rest : List (Step C)) :
    Definite (Meaning reads d waits before rest) := by
  intro w calls out w' calls₂ out₂ w₂ first second
  induction first generalizing calls₂ out₂ w₂ with
  | done before w =>
    cases second
    exact ⟨rfl, rfl, rfl⟩
  | next first others ih =>
    cases second with
    | next first₂ others₂ =>
      obtain ⟨rfl, same, rfl⟩ := StepMeans.definite one _ _ first first₂
      cases same
      obtain ⟨rfl, rfl, rfl⟩ := ih others₂
      exact ⟨rfl, rfl, rfl⟩
    | stop failed => cases (StepMeans.definite one _ _ first failed).2.1
  | stop failed =>
    cases second with
    | next first others => cases (StepMeans.definite one _ _ failed first).2.1
    | stop failed₂ =>
      obtain ⟨rfl, same, rfl⟩ := StepMeans.definite one _ _ failed failed₂
      cases same
      exact ⟨rfl, rfl, rfl⟩

end Steps
end PageHarvest.Replay
