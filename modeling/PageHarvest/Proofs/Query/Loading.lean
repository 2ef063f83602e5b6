import PageHarvest.Proofs.Query.Construction
import PageHarvest.Proofs.Yaml.Failures
import PageHarvest.Service.Api

/-!
What escapes the loading of a definition, from a step to a whole file. Loading gives a query or fails as
construction does unless there is a fault of one of the kinds below, which name all that can go wrong
otherwise. A file is decoded as a whole before it is read, so that bytes that are no text come before
all other faults.
-/
namespace PageHarvest.Query
open Value (AllOf)

section
variable [Stack] {C : Type}

/-- Faults of a step that let another failure escape than one of construction. -/
inductive StepFault : Value → Failure → Prop where
  /-- The keys are to be listed and have no order. -/
  | unordered {m message} (ambiguous : (choices m).length ≠ 1) (several : 1 < m.length)
      (mixed : ∀ k, ¬ AllOf k (m.map (·.1))) (told : Value.sorted? (m.map (·.1)) = .error message) :
      StepFault (.map m) (Cause.badType message)
  /-- The keys are to be listed, and their list cannot be shown. -/
  | unlisted {m keys u} (ambiguous : (choices m).length ≠ 1) (ordered : Value.sorted? (m.map (·.1)) = .ok keys)
      (hidden : (Value.list keys).unshown? = some u) : StepFault (.map m) (Cause.unshown u)
  /-- What stands for a selector cannot be shown. -/
  | selector {m key v u} (only : choices m = [(key, v)]) (selects : key = "wait_for" ∨ key = "group_by")
      (hidden : v.unshown? = some u) : StepFault (.map m) (Cause.unshown u)
  /-- What stands for a timeout cannot be shown, and is to be because it is no count. -/
  | timeout {m v selector t u} (only : choices m = [("wait_for", v)])
      (selected : requireSelector v = .ok selector) (given : m.field? "timeout_ms" = some t)
      (other : ∀ n : Nat, t ≠ .int n) (hidden : t.unshown? = some u) :
      StepFault (.map m) (Cause.unshown u)
  /-- The name of a field cannot be shown, and all is well with the fields up to there. -/
  | field {m before e after read u} (only : choices m = [("select", .map (before ++ e :: after))])
      (named : ∀ b ∈ before, ∃ g, Field.ofEntry b = .ok g)
      (defined : Field.ofDefinition e.1.plain e.2 = .ok read) (hidden : e.1.unshown? = some u) :
      StepFault (.map m) (Cause.unshown u)

/-- Faults of a definition: its method cannot be shown, or the first step that cannot be applied has a
fault of its own. -/
inductive DefinitionFault (C : Type) (m : Mapping) : Failure → Prop where
  | method {url v u} (started : requireUrl ((m.field? "url").getD .null) = .ok url)
      (given : m.field? "method" = some v) (hidden : v.unshown? = some u) :
      DefinitionFault C m (Cause.unshown u)
  | step {before s after f} {q q' : Query C}
      (started : startingAt ((m.field? "url").getD .null) ((m.field? "method").getD (.text "GET"))
        ((m.field? "post_data").getD .null) = .ok q)
      (listed : m.field? "steps" = some (.list (before ++ s :: after)))
      (applied : applySteps q 0 before = .ok q') (fault : StepFault s f) : DefinitionFault C m f

/-- Faults of a path, of the file there, and of the definition in it. -/
inductive FileFault (C : Type) (tree : FileTree) (p : Path) : FileFormat → Failure → Prop where
  | longName {format} (long : tree.meetsLongName p = true) : FileFault C tree p format
      (Cause.outside (.mk "OSError") ("[Errno 36] File name too long: " ++ Text.quoted p.text))
  | directory {format} (found : tree.find p = .ok (some .directory)) :
      FileFault C tree p format (directoryFailure p)
  | undecodable {format bytes m} (found : tree.find p = .ok (some (.file bytes)))
      (garbled : Text.Utf8.decode bytes = .error m) :
      FileFault C tree p format (Cause.undecodable m.message)
  /-- An integer in the file has too many digits to be read, or there are too many levels. -/
  | beyond {bytes text fault} (found : tree.find p = .ok (some (.file bytes)))
      (decoded : textOf bytes = .ok text) (written : text.all Text.isBlank = false)
      (unread : Json.read text = .error fault) (wellFormed : fault.isMalformed = false) :
      FileFault C tree p .json (fault.cause text)
  /-- The file is YAML, but for a scalar or a character code that is none, or there are too many levels. -/
  | scalar {bytes text f} (found : tree.find p = .ok (some (.file bytes)))
      (decoded : textOf bytes = .ok text) (unread : Yaml.read text = .error f) (fault : Yaml.Fault text f) :
      FileFault C tree p .yaml f
  | definition {format bytes text m f} (found : tree.find p = .ok (some (.file bytes)))
      (decoded : textOf bytes = .ok text) (read : format.read p text = .ok (.map m))
      (fault : DefinitionFault C m f) : FileFault C tree p format f

/-- The keys of an ambiguous step are listed when they can be sorted and shown. -/
theorem escapes_ambiguousStep_iff {α : Type} (index : Nat) (m : Mapping) (f : Failure) :
    Escapes (.error (ambiguousStep index m) : Except Failure α) f ↔
      (1 < m.length ∧ (∀ k, ¬ AllOf k (m.map (·.1))) ∧
        ∃ message, Value.sorted? (m.map (·.1)) = .error message ∧ f = Cause.badType message) ∨
      ∃ keys u, Value.sorted? (m.map (·.1)) = .ok keys ∧ (Value.list keys).unshown? = some u ∧
        f = Cause.unshown u := by
  have sortable := Value.sorted?_isOk_iff (m.map (·.1))
  rw [List.length_map] at sortable
  unfold ambiguousStep
  cases sorted : Value.sorted? (m.map (·.1)) with
  | error message =>
    have unsortable : ¬ (m.length ≤ 1 ∨ ∃ k, AllOf k (m.map (·.1))) := by
      rw [← sortable, sorted]
      nofun
    obtain ⟨several, mixed⟩ := not_or.mp unsortable
    simp only [reduceCtorEq, false_and, exists_false, or_false, Except.error.injEq, exists_eq_left',
      escapes_error_iff]
    constructor
    · rintro ⟨same, -⟩
      exact ⟨Nat.lt_of_not_le several, not_exists.mp mixed, same.symm⟩
    · rintro ⟨-, -, same⟩
      exact ⟨same.symm, rfl⟩
  | ok keys =>
    simp only [reduceCtorEq, false_and, exists_false, and_false, false_or, Except.ok.injEq]
    rw [escapes_showing_iff _ rfl]
    simp

theorem StepFault.of_escapes {q : Query C} {index : Nat} {s : Value} {f : Failure}
    (escapes : Escapes (q.applyStep index s) f) : StepFault s f := by
  cases s with
  | map m =>
    by_cases one : (choices m).length = 1
    · obtain ⟨⟨key, v⟩, only⟩ := List.length_eq_one_iff.mp one
      rw [applyStep_chosen only] at escapes
      -- the last case of `applyKey` is the only step key that it does not name
      have key_mem := choices_key only
      simp only [stepKeys, List.mem_cons, List.not_mem_nil, or_false] at key_mem
      rcases key_mem with rfl | rfl | rfl | rfl
      · exact absurd escapes (not_escapes_go q v f)
      · obtain ⟨u, hidden, rfl⟩ | ⟨⟨selector, selected⟩, other, u, hidden, rfl⟩ :=
          (escapes_waitFor_iff q v _ f).mp escapes
        · exact .selector only (.inl rfl) hidden
        · cases given : Mapping.field? m "timeout_ms" with
          | none => simp [given] at hidden
          | some t =>
            rw [given] at hidden other
            exact .timeout only selected given other hidden
      · obtain ⟨u, hidden, rfl⟩ := (escapes_groupBy_iff q v f).mp escapes
        exact .selector only (.inr rfl) hidden
      · obtain ⟨before, e, after, read, u, rfl, named, defined, hidden, rfl⟩ :=
          (Field.escapes_ofMapping_iff v f).mp ((escapes_select_iff q v f).mp escapes)
        exact .field only named defined hidden
    · rw [applyStep_ambiguous one] at escapes
      obtain ⟨several, mixed, message, told, rfl⟩ | ⟨keys, u, ordered, hidden, rfl⟩ :=
        (escapes_ambiguousStep_iff index m f).mp escapes
      · exact .unordered one several mixed told
      · exact .unlisted one ordered hidden
  | _ => simp [applyStep, Cause.isConstruction] at escapes

theorem StepFault.escapes {s : Value} {f : Failure} (fault : StepFault s f) (q : Query C)
    (index : Nat) : Escapes (q.applyStep index s) f := by
  cases fault with
  | @unordered m message ambiguous several mixed told =>
    rw [applyStep_ambiguous ambiguous, escapes_ambiguousStep_iff]
    exact .inl ⟨several, mixed, message, told, rfl⟩
  | unlisted ambiguous ordered hidden =>
    rw [applyStep_ambiguous ambiguous, escapes_ambiguousStep_iff]
    exact .inr ⟨_, _, ordered, hidden, rfl⟩
  | @selector m key v u only selects hidden =>
    rw [applyStep_chosen only]
    rcases selects with rfl | rfl
    · exact (escapes_waitFor_iff q v _ _).mpr (.inl ⟨u, hidden, rfl⟩)
    · exact (escapes_groupBy_iff q v _).mpr ⟨u, hidden, rfl⟩
  | @timeout m v selector t u only selected given other hidden =>
    rw [applyStep_chosen only, applyKey, given]
    exact (escapes_waitFor_iff q v t _).mpr (.inr ⟨⟨selector, selected⟩, other, u, hidden, rfl⟩)
  | @field m before e after read u only named defined hidden =>
    rw [applyStep_chosen only]
    refine (escapes_select_iff q _ _).mpr ((Field.escapes_ofMapping_iff _ _).mpr ?_)
    exact ⟨before, e, after, read, u, rfl, named, defined, hidden, rfl⟩

theorem escapes_applyStep_iff (q : Query C) (index : Nat) (s : Value) (f : Failure) :
    Escapes (q.applyStep index s) f ↔ StepFault s f :=
  ⟨.of_escapes, fun fault => fault.escapes q index⟩

/-- Of several steps, the first that cannot be applied is the one with the fault. -/
theorem escapes_applySteps_iff (q : Query C) (index : Nat) (steps : List Value) (f : Failure) :
    Escapes (q.applySteps index steps) f ↔ ∃ before s after q', steps = before ++ s :: after ∧
      q.applySteps index before = .ok q' ∧ StepFault s f := by
  induction steps generalizing q index with
  | nil =>
    simp [applySteps]
  | cons t rest ih =>
    rw [applySteps, escapes_bind_iff, escapes_applyStep_iff]
    constructor
    · rintro (now | ⟨q₁, grown, later⟩)
      · exact ⟨[], t, rest, q, rfl, rfl, now⟩
      · obtain ⟨before, s, after, q', rfl, applied, fault⟩ := (ih q₁ (index + 1)).mp later
        refine ⟨t :: before, s, after, q', rfl, ?_, fault⟩
        rw [applySteps, grown]
        exact applied
    · rintro ⟨before, s, after, q', split, applied, fault⟩
      cases before with
      | nil =>
        cases split
        exact .inl fault
      | cons t' before =>
        cases split
        cases grown : q.applyStep index t with
        | error e =>
          rw [applySteps, grown] at applied
          cases applied
        | ok q₁ =>
          rw [applySteps, grown] at applied
          exact .inr ⟨q₁, rfl, (ih q₁ (index + 1)).mpr ⟨before, s, after, q', rfl, applied, fault⟩⟩

theorem escapes_ofMapping_iff (m : Mapping) (f : Failure) :
    Escapes (ofMapping m : Except Failure (Query C)) f ↔ DefinitionFault C m f := by
  unfold ofMapping
  rw [escapes_bind_iff, escapes_startingAt_iff]
  constructor
  · rintro (⟨⟨url, started⟩, u, hidden, rfl⟩ | ⟨q, started, escapes⟩)
    · cases given : m.field? "method" with
      | none => simp [given] at hidden
      | some v =>
        rw [given] at hidden
        exact .method started given hidden
    · cases listed : m.field? "steps" with
      | none => simp [listed, Value.isEmpty] at escapes
      | some v =>
        rw [listed] at escapes
        cases v with
        | list steps =>
          obtain ⟨before, s, after, q', rfl, applied, fault⟩ :=
            (escapes_applySteps_iff q 0 steps f).mp escapes
          exact .step started listed applied fault
        | _ =>
          simp only [Option.getD_some] at escapes
          split at escapes <;> simp [Cause.isConstruction] at escapes
  · intro fault
    cases fault with
    | @method url v u started given hidden => exact .inl ⟨⟨url, started⟩, u, by rwa [given], rfl⟩
    | @step before s after f q q' started listed applied fault =>
      refine .inr ⟨q, started, ?_⟩
      rw [listed]
      exact (escapes_applySteps_iff q 0 _ f).mpr ⟨before, s, after, q', rfl, applied, fault⟩

/-! Files -/

omit [Stack] in
theorem escapes_textOf_iff (bytes : List UInt8) (f : Failure) : Escapes (textOf bytes) f ↔
    ∃ m, Text.Utf8.decode bytes = .error m ∧ f = Cause.undecodable m.message := by
  unfold textOf
  cases decoded : Text.Utf8.decode bytes with
  | ok s => simp
  | error m =>
    simp only [escapes_error_iff, Except.error.injEq, exists_eq_left']
    exact ⟨fun escapes => escapes.1.symm, fun same => ⟨same.symm, rfl⟩⟩

theorem escapes_read_json_iff (p : Path) (text : List Char) (f : Failure) :
    Escapes (FileFormat.json.read p text) f ↔ text.all Text.isBlank = false ∧
      ∃ fault, Json.read text = .error fault ∧ fault.isMalformed = false ∧ f = fault.cause text := by
  unfold FileFormat.read
  cases blank : text.all Text.isBlank with
  | true => simp
  | false =>
    cases read : Json.read text with
    | ok v => simp
    | error fault =>
      simp only [Bool.false_eq_true, if_false, true_and, Except.error.injEq, exists_eq_left']
      cases fault with
      | malformed reason position => simp [Json.Fault.isMalformed, Cause.isConstruction]
      | longInteger | tooDeep =>
        simp only [Json.Fault.isMalformed, true_and, escapes_error_iff]
        constructor
        · exact fun escapes => escapes.1.symm
        · rintro rfl
          exact ⟨rfl, rfl⟩

/-- What escapes once a file has been found. -/
theorem escapes_content_iff (tree : FileTree) (format : FileFormat) (p : Path) (shown : String)
    {bytes : List UInt8} (found : tree.find p = .ok (some (.file bytes))) (f : Failure) :
    Escapes (ofFile tree format p shown : Except Failure (Query C)) f ↔
      Escapes (textOf bytes) f ∨ ∃ text, textOf bytes = .ok text ∧
        (Escapes (format.read p text) f ∨
          ∃ m, format.read p text = .ok (.map m) ∧ DefinitionFault C m f) := by
  unfold ofFile
  rw [found, escapes_bind_iff]
  simp only [not_escapes_ok, false_or, Except.ok.injEq, exists_eq_left']
  rw [escapes_bind_iff]
  refine or_congr_right (exists_congr fun text => and_congr_right fun decoded => ?_)
  rw [escapes_bind_iff]
  refine or_congr_right ?_
  constructor
  · rintro ⟨v, read, escapes⟩
    cases v with
    | map m => exact ⟨m, read, (escapes_ofMapping_iff m f).mp escapes⟩
    | _ => simp [Cause.isConstruction] at escapes
  · rintro ⟨m, read, fault⟩
    exact ⟨.map m, read, (escapes_ofMapping_iff m f).mpr fault⟩

theorem FileFault.of_escapes {tree : FileTree} {format : FileFormat} {p : Path} {shown : String}
    {f : Failure} (escapes : Escapes (ofFile tree format p shown : Except Failure (Query C)) f) :
    FileFault C tree p format f := by
  cases found : tree.find p with
  | error e =>
    unfold ofFile at escapes
    rw [found] at escapes
    cases escapes.1
    unfold FileTree.find at found
    split at found
    next long =>
      cases found
      exact .longName long
    next => cases found
  | ok entry =>
    cases entry with
    | none =>
      unfold ofFile at escapes
      rw [found] at escapes
      cases escapes.1
      cases escapes.2
    | some entry =>
      cases entry with
      | directory =>
        unfold ofFile at escapes
        rw [found] at escapes
        cases escapes.1
        exact .directory found
      | file bytes =>
        rw [escapes_content_iff tree format p shown found] at escapes
        rcases escapes with garbled | ⟨text, decoded, unread | ⟨m, read, fault⟩⟩
        · obtain ⟨m, bad, rfl⟩ := (escapes_textOf_iff bytes f).mp garbled
          exact .undecodable found bad
        · cases format with
          | yaml =>
            obtain ⟨failed, fault⟩ := (Yaml.escapes_read_iff text f).mp unread
            exact .scalar found decoded failed fault
          | json =>
            obtain ⟨written, fault, failed, wellFormed, rfl⟩ := (escapes_read_json_iff p text f).mp unread
            exact .beyond found decoded written failed wellFormed
        · exact .definition found decoded read fault

theorem FileFault.escapes {tree : FileTree} {format : FileFormat} {p : Path} {f : Failure}
    (fault : FileFault C tree p format f) (shown : String) :
    Escapes (ofFile tree format p shown : Except Failure (Query C)) f := by
  cases fault with
  | longName long =>
    refine ⟨?_, rfl⟩
    simp [ofFile, FileTree.find, long, bind, Except.bind]
  | directory found =>
    refine ⟨?_, rfl⟩
    simp [ofFile, found, bind, Except.bind]
  | @undecodable format bytes m found garbled =>
    rw [escapes_content_iff tree format p shown found]
    exact .inl ((escapes_textOf_iff bytes _).mpr ⟨m, garbled, rfl⟩)
  | @beyond bytes text fault found decoded written unread wellFormed =>
    rw [escapes_content_iff tree .json p shown found]
    exact .inr ⟨text, decoded,
      .inl ((escapes_read_json_iff p text _).mpr ⟨written, fault, unread, wellFormed, rfl⟩)⟩
  | @scalar bytes text f found decoded unread fault =>
    rw [escapes_content_iff tree .yaml p shown found]
    exact .inr ⟨text, decoded, .inl ((Yaml.escapes_read_iff text f).mpr ⟨unread, fault⟩)⟩
  | @definition format bytes text m f found decoded read fault =>
    rw [escapes_content_iff tree format p shown found]
    exact .inr ⟨text, decoded, .inr ⟨m, read, fault⟩⟩

theorem escapes_ofFile_iff (tree : FileTree) (format : FileFormat) (p : Path) (shown : String)
    (f : Failure) : Escapes (ofFile tree format p shown : Except Failure (Query C)) f ↔
      FileFault C tree p format f :=
  ⟨.of_escapes, fun fault => fault.escapes shown⟩

theorem escapes_load_iff (tree : FileTree) (p : Path) (f : Failure) :
    Escapes (load tree p : Except Failure (Query C)) f ↔
      ∃ format, FileFormat.ofPath p = .ok format ∧ FileFault C tree p format f := by
  have known : ¬ Escapes (FileFormat.ofPath p) f := by
    unfold FileFormat.ofPath
    split <;> simp [Cause.isConstruction]
  simp only [load, escapes_bind_iff, known, false_or, escapes_ofFile_iff]

/-- What is loaded is what some definition says. -/
theorem ofMapping_of_load {tree : FileTree} {p : Path} {q : Query C} (loaded : load tree p = .ok q) :
    ∃ m, ofMapping m = .ok q := by
  obtain ⟨format, -, loaded⟩ := bind_ok_iff.mp loaded
  obtain ⟨entry, -, loaded⟩ := bind_ok_iff.mp loaded
  split at loaded
  · cases loaded
  · cases loaded
  · obtain ⟨text, -, loaded⟩ := bind_ok_iff.mp loaded
    obtain ⟨v, -, loaded⟩ := bind_ok_iff.mp loaded
    split at loaded
    · cases loaded
    · exact ⟨_, loaded⟩
    · cases loaded

omit [Stack] in
theorem Value.Unshown.not_transport (u : Value.Unshown) :
    (Cause.unshown u : Failure).cause.isTransport = false := by
  cases u <;> rfl

theorem StepFault.not_transport {s : Value} {f : Failure} (fault : StepFault s f) :
    f.cause.isTransport = false := by
  cases fault with
  | unordered => rfl
  | unlisted | selector | timeout | field => exact Value.Unshown.not_transport _

/-- No file is loaded from far away. -/
theorem FileFault.not_transport {tree : FileTree} {p : Path} {format : FileFormat} {f : Failure}
    (fault : FileFault C tree p format f) : f.cause.isTransport = false := by
  cases fault with
  | longName | directory | undecodable => rfl
  | @beyond _ _ fault => cases fault <;> rfl
  | scalar _ _ _ fault =>
    cases fault with
    | deep => rfl
    | code wide =>
      obtain ⟨n, escapes, -⟩ := wide
      unfold Yaml.charOfCode at escapes
      split at escapes
      · cases escapes
        rfl
      · split at escapes
        · cases escapes
          rfl
        · cases escapes
    | scalar _ unread =>
      obtain ⟨name, s, -, -, fault⟩ := unread
      cases fault <;> rfl
  | definition _ _ _ fault =>
    cases fault with
    | method => exact Value.Unshown.not_transport _
    | step _ _ _ fault => exact fault.not_transport

omit [Stack] in
/-- The service refuses a definition that is not one, and passes on what escapes. -/
theorem accepted_eq_failed_iff (made : Except Failure (Query C)) (f : Failure) :
    Service.accepted made = .error (.failed f) ↔ Escapes made f := by
  cases made with
  | ok q => simp [Service.accepted, Except.mapError]
  | error e => cases kind : e.cause.isConstruction <;> simp [Service.accepted, Except.mapError, kind]

end

end PageHarvest.Query
