import PageHarvest.CommandLine.Session

/-!
Printing on consoles. A task does on each of them what it does on one that takes every text, up to the
first text that is refused there.
-/
namespace PageHarvest.CommandLine

/-- What printing has come to on a console, after some texts: what it comes to on one that takes every text, or
the refusal of a text that comes next there. -/
inductive Printed {α : Type} (c : Console) (before : List String) :
    Except Failure α × List String → Except Failure α × List String → Prop where
  | taken {more out} (all : ∀ text ∈ more, c.refusal? text = none) :
      Printed c before (out, before ++ more) (out, before ++ more)
  | refused {more text after out message} (all : ∀ text ∈ more, c.refusal? text = none)
      (refused : c.refusal? text = some message) :
      Printed c before (out, before ++ (more ++ text :: after)) (.error (unprintable message), before ++ more)

/-- Two tasks of which the second does on a console what the first does on one that takes every text. -/
def Prints {α : Type} (c : Console) (whole task : Printing α) : Prop :=
  ∀ texts, Printed c texts (whole.runOn texts) (task.runOn texts)

namespace Prints
variable {α β : Type} {c : Console}

theorem ofExcept (r : Except Failure α) : Prints c (Act.ofExcept r) (Act.ofExcept r) := by
  intro texts
  have nothing : Printed c texts (r, texts ++ []) (r, texts ++ []) := .taken (List.forall_mem_nil _)
  rw [List.append_nil] at nothing
  exact nothing

theorem pure (a : α) : Prints c (pure a) (pure a) :=
  ofExcept (.ok a)

theorem fail (f : Failure) : Prints c (Act.fail f : Printing α) (Act.fail f) :=
  ofExcept (.error f)

theorem print (text : String) : Prints c (Console.all.print text) (c.print text) := by
  intro texts
  have whole : (Console.all.print text).runOn texts = (.ok ⟨⟩, texts ++ [text]) := rfl
  rw [whole]
  unfold Console.print
  cases refusal : c.refusal? text with
  | none => exact .taken fun _ mem => List.mem_singleton.mp mem ▸ refusal
  | some message =>
    have cut : Printed c texts (.ok (), texts ++ ([] ++ [text])) (.error (unprintable message), texts ++ []) :=
      .refused (List.forall_mem_nil _) refusal
    rw [List.append_nil] at cut
    exact cut

theorem bind {whole task : Printing α} {next next' : α → Printing β} (first : Prints c whole task)
    (later : ∀ a, Prints c (next a) (next' a)) : Prints c (whole >>= next) (task >>= next') := by
  intro texts
  have started := first texts
  rw [Act.runOn_bind, Act.runOn_bind]
  generalize whole.runOn texts = run at started ⊢
  generalize task.runOn texts = run' at started ⊢
  cases started with
  | @taken more out all =>
    cases out with
    | error f => exact .taken all
    | ok a =>
      -- both go on from the same texts
      dsimp only
      have goesOn := later a (texts ++ more)
      generalize (next a).runOn (texts ++ more) = run at goesOn ⊢
      generalize (next' a).runOn (texts ++ more) = run' at goesOn ⊢
      cases goesOn with
      | taken all' =>
        rw [List.append_assoc]
        exact .taken fun text mem => (List.mem_append.mp mem).elim (all text) (all' text)
      | refused all' refused =>
        rw [List.append_assoc, List.append_assoc, ← List.append_assoc more]
        exact .refused (fun text mem => (List.mem_append.mp mem).elim (all text) (all' text)) refused
  | @refused more text after out message all refused =>
    -- whatever else would be printed comes after the text that is refused
    cases out with
    | error f => exact .refused all refused
    | ok a =>
      dsimp only
      have goesOn := later a (texts ++ (more ++ text :: after))
      generalize (next a).runOn (texts ++ (more ++ text :: after)) = run at goesOn ⊢
      generalize (next' a).runOn (texts ++ (more ++ text :: after)) = run' at goesOn
      cases goesOn with
      | taken _ =>
        rw [List.append_assoc, List.append_assoc, List.cons_append]
        exact .refused all refused
      | refused _ _ =>
        rw [List.append_assoc, List.append_assoc, List.cons_append]
        exact .refused all refused

theorem forM {texts : List String} : Prints c (texts.forM Console.all.print) (texts.forM c.print) := by
  induction texts with
  | nil => exact .pure ()
  | cons text rest ih => exact .bind (.print text) fun _ => ih

/-- What succeeds on a console succeeds on one that takes every text. -/
theorem of_ok {whole task : Printing α} (prints : Prints c whole task) {texts printed : List String} {a : α}
    (done : task.runOn texts = (.ok a, printed)) : ∃ printed', whole.runOn texts = (.ok a, printed') := by
  have run := prints texts
  rw [done] at run
  generalize whole.runOn texts = result at run ⊢
  cases run with
  | taken all => exact ⟨_, rfl⟩

end Prints

/-- The ending on a console of a task that comes to an ending on one that takes every text. -/
inductive Ending.On (c : Console) : Ending → Ending → Prop where
  | taken {e} (all : ∀ text ∈ e.texts, c.refusal? text = none)
      (told : ∀ message, e.close = .told message → c.refusal? (errorLine message) = none) : On c e e
  /-- A text is refused, and that is told, if it can be. -/
  | refused {before text after close message} (all : ∀ earlier ∈ before, c.refusal? earlier = none)
      (refused : c.refusal? text = some message) :
      On c ⟨before ++ text :: after, close⟩ ⟨before, c.close (unprintable message)⟩
  /-- The line that tells of an error is refused. -/
  | untold {texts message refusal} (all : ∀ text ∈ texts, c.refusal? text = none)
      (refused : c.refusal? (errorLine message) = some refusal) :
      On c ⟨texts, .told message⟩ ⟨texts, .raised (unprintable refusal)⟩

/-- Failures are told alike wherever the line is taken. -/
theorem Ending.on_close (c : Console) {texts : List String} (all : ∀ text ∈ texts, c.refusal? text = none)
    (f : Failure) : Ending.On c ⟨texts, Console.all.close f⟩ ⟨texts, c.close f⟩ := by
  unfold Console.close
  cases errorMessage? f with
  | none => exact .taken all nofun
  | some message =>
    dsimp only [Console.all]
    cases refusal : c.refusal? (errorLine message) with
    | none =>
      refine .taken all ?_
      rintro _ ⟨⟩
      exact refusal
    | some refusal' => exact .untold all refusal

theorem Prints.ending {c : Console} {whole task : Printing Nat} (prints : Prints c whole task) :
    Ending.On c (Console.all.ending (whole.runOn [])) (c.ending (task.runOn [])) := by
  have run := prints []
  generalize whole.runOn [] = whole at run ⊢
  generalize task.runOn [] = task at run ⊢
  cases run with
  | @taken texts out all =>
    cases out with
    | ok status => exact .taken all nofun
    | error f => exact Ending.on_close c all f
  | refused all refused => exact .refused all refused

variable [Stack] {C : Type}

theorem prints_prepare (c : Console) (t : FileTree) (vs : Settings.Variables) (s : Source) :
    Prints c (prepare Console.all t vs s : Printing (Prepared C)) (prepare c t vs s) :=
  .bind (.ofExcept _) fun _ => .bind .forM fun _ => .bind (.ofExcept _) fun _ => .pure _

theorem prints_outcome (c : Console) (outcome : Except Failure (List Record)) :
    Prints c (Console.all.printOutcome outcome) (c.printOutcome outcome) := by
  cases outcome with
  | ok records => exact .bind (.bind (.ofExcept _) fun _ => .print _) fun _ => .pure 0
  | error f =>
    unfold Console.printOutcome
    dsimp only
    split
    · exact .bind (.print _) fun _ => .pure 1
    · exact .fail f

end PageHarvest.CommandLine
