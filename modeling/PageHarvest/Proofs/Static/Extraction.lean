import PageHarvest.Proofs.Data.Table
import PageHarvest.Proofs.Static.Sameness
import PageHarvest.Proofs.Url

/-!
What reading fields of a document comes to. With selectors that can be read, only a link stands in the way:
one whose address, or the address of whose page, cannot be read when the two are joined. Everything else is
a text or nothing.
-/
namespace PageHarvest.StaticWorld
open Handler Replay
open Html (Place)

/-- The link that a field finds below a place, on a page at `url`, cannot be resolved. -/
inductive BrokenLink (url : String) (start : Option Place) (pick : Place → List Place) :
    Option String → Failure → Prop where
  | broken {place q name v f} (there : start = some place) (first : (pick place).head? = some q)
      (link : name ∈ Url.attrNames) (written : q.node.attr? name = some v) (away : url ≠ blankUrl)
      (based : url ≠ "") (filled : v.joined ≠ "")
      (fault : Url.Unjoinable url.toList v.joined.toList f) : BrokenLink url start pick (some name) f

theorem attrValue_error_iff (url name : String) (v : Html.AttrValue) (f : Failure) :
    attrValue url name v = .error f ↔ name ∈ Url.attrNames ∧ url ≠ blankUrl ∧ url ≠ "" ∧
      v.joined ≠ "" ∧ Url.Unjoinable url.toList v.joined.toList f := by
  unfold attrValue
  split
  · rename_i resolved
    simp only [Bool.and_eq_true, List.contains_eq_mem, decide_eq_true_eq, bne_iff_ne] at resolved
    rw [Url.join_error_iff]
    constructor
    · rintro ⟨based, filled, fault⟩
      exact ⟨resolved.1.1, resolved.2, based, filled, fault⟩
    · rintro ⟨-, -, based, filled, fault⟩
      exact ⟨based, filled, fault⟩
  · rename_i plain
    constructor
    · intro never
      cases never
    · rintro ⟨link, away, -, filled, -⟩
      apply absurd _ plain
      simp [link, away, filled]

theorem extracted_error_iff {engine : Css.Engine} {selector : String} {pick : Place → List Place}
    (valid : engine selector = .ok pick) (url : String) (start : Option Place) (attr : Option String)
    (f : Failure) : extracted engine url start selector attr = .error f ↔ BrokenLink url start pick attr f := by
  unfold extracted
  rw [valid]
  dsimp only [bind, Except.bind]
  constructor
  · intro failed
    cases found : start.bind fun q => (pick q).head? with
    | none =>
      rw [found] at failed
      cases failed
    | some q =>
      obtain ⟨place, there, first⟩ := Option.bind_eq_some_iff.mp found
      rw [found] at failed
      cases attr with
      | none => cases failed
      | some name =>
        dsimp only at failed
        cases written : q.node.attr? name with
        | none =>
          rw [written] at failed
          cases failed
        | some v =>
          rw [written] at failed
          dsimp only at failed
          cases value : attrValue url name v with
          | ok text =>
            rw [value] at failed
            cases failed
          | error f' =>
            rw [value] at failed
            cases failed
            obtain ⟨link, away, based, filled, fault⟩ := (attrValue_error_iff url name v f).mp value
            exact .broken there first link written away based filled fault
  · rintro ⟨rfl, first, link, written, away, based, filled, fault⟩
    have value := (attrValue_error_iff _ _ _ f).mpr ⟨link, away, based, filled, fault⟩
    rw [Option.bind_some, first]
    dsimp only
    rw [written]
    dsimp only
    rw [value]

section Records
variable {engine : Css.Engine}

/-- The record that fields come to below a place. -/
def recordAt (engine : Css.Engine) (url : String) (start : Option Place) (fields : List Field) :
    Except Failure Record :=
  (fields.mapM fun f => extracted engine url start f.selector f.attr).map fun values =>
    .update [] ((fields.zip values).map fun (f, v) => (f.name, Value.ofText? v))

/-- A record with every field's name, under which stands a text or nothing. -/
structure TextRecord (fields : List Field) (record : Record) : Prop where
  names : record.map (·.1) = (fields.map (·.name)).eraseDups
  values : ∀ e ∈ record, e.2 = .null ∨ ∃ text, e.2 = .text text

theorem textRecord_of_recordAt {url : String} {start : Option Place} {fields : List Field} {record : Record}
    (made : recordAt engine url start fields = .ok record) : TextRecord fields record := by
  obtain ⟨values, read, rfl⟩ := map_ok_iff.mp made
  have length := (mapM_ok_iff.mp read).length_eq
  rw [update_eq_recordOf]
  constructor
  · exact names_recordOf length.symm
  · intro e member
    obtain ⟨⟨f, v⟩, -, rfl⟩ := List.mem_map.mp (Table.mem_of_mem_settled member)
    cases v with
    | none => exact .inl rfl
    | some text => exact .inr ⟨text, rfl⟩

theorem recordAt_error {url : String} {start : Option Place} {fields : List Field} {f : Failure}
    (valid : ∀ field ∈ fields, ∃ pick, engine field.selector = .ok pick)
    (failed : recordAt engine url start fields = .error f) :
    ∃ field ∈ fields, ∃ pick, engine field.selector = .ok pick ∧
      BrokenLink url start pick field.attr f := by
  have failed : (fields.mapM fun f => extracted engine url start f.selector f.attr) = .error f := by
    unfold recordAt at failed
    cases read : fields.mapM fun f => extracted engine url start f.selector f.attr with
    | ok values =>
      rw [read] at failed
      cases failed
    | error f' =>
      rw [read] at failed
      cases failed
      rfl
  obtain ⟨field, mem, here⟩ := exists_of_mapM_error failed
  obtain ⟨pick, reads⟩ := valid field mem
  exact ⟨field, mem, pick, reads, (extracted_error_iff reads url start field.attr f).mp here⟩

theorem extracted_of_recordAt {url : String} {start : Option Place} {fields : List Field} {record : Record}
    (made : recordAt engine url start fields = .ok record) {field : Field} (mem : field ∈ fields) :
    ∃ v, extracted engine url start field.selector field.attr = .ok v := by
  obtain ⟨values, read, -⟩ := map_ok_iff.mp made
  obtain ⟨v, -, here⟩ := (ok_of_mapM read).1 field mem
  exact ⟨v, here⟩

end Records

section Selection
variable {C : Type} {t : Backend} {g : Host StaticWorld PageRef Nat C} (serves : Serves t g)
  {state : ReplayState PageRef Nat} {w : StaticWorld} {p : StaticPage} (here : w.pageAt state.page = some p)
include serves here

theorem readFields_runOn (root : Option Nat) (fields : List Field) :
    (readFields g state.page root [] fields).runOn w =
      (recordAt t.engine p.url (w.place? (root.getD p.document)) fields, w) := by
  have still : ∀ f ∈ fields, (g.extract state.page root f.selector f.attr).runOn w =
      (extracted t.engine p.url (w.place? (root.getD p.document)) f.selector f.attr, w) := by
    intro f _
    rw [serves.extract, extract_runOn t.engine here]
  rw [readFields_eq_mapM, Act.runOn_map, Act.runOn_mapM_of_still still]
  rfl

theorem selectStep_runOn (fields : List Field) : ∃ w', (selectStep g fields state).runOn w =
    ((state.scope.roots.mapM fun root =>
      recordAt t.engine p.url (w.place? (root.getD p.document)) fields).map state.withRecords, w') := by
  have still : ∀ root ∈ state.scope.roots, (readFields g state.page root [] fields).runOn w =
      (recordAt t.engine p.url (w.place? (root.getD p.document)) fields, w) :=
    fun root _ => readFields_runOn serves here root fields
  unfold selectStep
  rw [readRecords_eq_mapM, Act.runOn_bind, Act.runOn_mapM_of_still still]
  cases state.scope.roots.mapM fun root => recordAt t.engine p.url (w.place? (root.getD p.document)) fields with
  | error f => exact ⟨w, rfl⟩
  | ok records => exact ⟨_, rfl⟩

/-- Below one of the roots, one of the fields finds a link that cannot be resolved. -/
def Breaks (engine : Css.Engine) (w : StaticWorld) (p : StaticPage) (roots : List (Option Nat))
    (fields : List Field) (f : Failure) : Prop :=
  ∃ root ∈ roots, ∃ field ∈ fields, ∃ pick, engine field.selector = .ok pick ∧
    BrokenLink p.url (w.place? (root.getD p.document)) pick field.attr f

/-- With selectors that can be read, one read fails exactly at a link that cannot be resolved. A selection
puts in one record of texts for each root unless there is such a link, at which it fails otherwise. -/
theorem extraction_fails_iff {fields : List Field}
    (valid : ∀ field ∈ fields, ∃ pick, t.engine field.selector = .ok pick) :
    (∀ root selector pick attr, t.engine selector = .ok pick →
      ∃ out, (g.extract state.page root selector attr).runOn w = (out, w) ∧
        ∀ f, out = .error f ↔ BrokenLink p.url (w.place? (root.getD p.document)) pick attr f) ∧
    ∃ out w', (selectStep g fields state).runOn w = (out, w') ∧
      ((∃ records, out = .ok (state.withRecords records) ∧ records.length = state.scope.roots.length ∧
        ∀ record ∈ records, TextRecord fields record) ↔ ∀ f, ¬ Breaks t.engine w p state.scope.roots fields f) ∧
      ∀ f, out = .error f → Breaks t.engine w p state.scope.roots fields f := by
  constructor
  · intro root selector pick attr reads
    rw [serves.extract, extract_runOn t.engine here]
    exact ⟨_, rfl, extracted_error_iff reads _ _ attr⟩
  obtain ⟨w', done⟩ := selectStep_runOn serves here fields
  refine ⟨_, w', done, ?_⟩
  -- Records are made root by root, so a failure is that of one field below one root.
  cases made : state.scope.roots.mapM fun root => recordAt t.engine p.url (w.place? (root.getD p.document)) fields with
  | ok records =>
    obtain ⟨each, all⟩ := ok_of_mapM made
    have length : records.length = state.scope.roots.length := (mapM_ok_iff.mp made).length_eq.symm
    have texts : ∀ record ∈ records, TextRecord fields record := by
      intro record mem
      obtain ⟨root, -, here⟩ := all record mem
      exact textRecord_of_recordAt here
    refine ⟨⟨fun _ f breaks => ?_, fun _ => ⟨records, rfl, length, texts⟩⟩, nofun⟩
    obtain ⟨root, mem, field, inside, pick, reads, broken⟩ := breaks
    obtain ⟨record, -, here⟩ := each root mem
    obtain ⟨v, read⟩ := extracted_of_recordAt here inside
    rw [(extracted_error_iff reads _ _ _ f).mpr broken] at read
    cases read
  | error f =>
    obtain ⟨root, mem, failed⟩ := exists_of_mapM_error made
    have breaks : Breaks t.engine w p state.scope.roots fields f := ⟨root, mem, recordAt_error valid failed⟩
    refine ⟨⟨nofun, fun none => absurd breaks (none f)⟩, fun f' same => ?_⟩
    cases same
    exact breaks

end Selection

section Links

/-- Two paragraphs, the second with a link to a host whose brackets are not closed. -/
def linked : String :=
  "<p><a href=/1>x</a></p><p><a href=http://[>y</a></p>"

def atLinked : StaticWorld :=
  (openPage { site := [("http://a/", { markup := linked })], start := 0, now := 0 } [] false).2

def visitLinked : Step Callback :=
  .navigate ⟨"http://a/", "GET", .null⟩

def linkField : Field :=
  ⟨"l", "a", some "href"⟩

theorem extraction_fails_iff_at_linked : ∃ state w p f w', w.pageAt state.page = some p ∧
    state.scope.roots.length = 2 ∧ (selectStep host [linkField] state).runOn w = (.error f, w') ∧
    Breaks Css.engine w p state.scope.roots [linkField] f := by
  have valid : ∀ field ∈ [linkField], ∃ pick, Css.engine field.selector = .ok pick := by
    intro field mem
    cases List.mem_singleton.mp mem
    exact ⟨_, rfl⟩
  obtain ⟨state, w, -, shown⟩ := Act.exists_ok
    (runSteps host {} Handler.standard 0 [visitLinked, .groupBy "p"] (.initial (.page 0))) atLinked
    (fun state w => (w.pageAt state.page).isSome && state.scope.roots.length == 2 &&
      match (selectStep host [linkField] state).runOn w with
      | (.error _, _) => true
      | (.ok _, _) => false) (by decide +kernel)
  simp only [Bool.and_eq_true, beq_iff_eq] at shown
  obtain ⟨⟨there, two⟩, fails⟩ := shown
  obtain ⟨p, here⟩ := Option.isSome_iff_exists.mp there
  obtain ⟨out, w', run, -, broken⟩ := (extraction_fails_iff (hostVia_serves .scripted) here valid).2
  have run : (selectStep host [linkField] state).runOn w = (out, w') := run
  rw [run] at fails
  cases out with
  | error f => exact ⟨state, w, p, f, w', here, two, run, broken f rfl⟩
  | ok _ => cases fails

/-- One link that cannot be resolved loses the whole run. -/
theorem link_fails_run : (∃ pick, Css.engine "p" = .ok pick) ∧ (∃ pick, Css.engine "a" = .ok pick) ∧
    ∃ f w', (execute host {} Handler.standard [visitLinked, .groupBy "p", .select [linkField]] (.page 0)
      "1").runOn atLinked = (.error f, w') ∧ f.name = "ValueError" ∧ f.message = "Invalid IPv6 URL" := by
  refine ⟨⟨_, rfl⟩, ⟨_, rfl⟩, ?_⟩
  obtain ⟨f, w', run, shown⟩ := Act.exists_error
    (execute host {} Handler.standard [visitLinked, .groupBy "p", .select [linkField]] (.page 0) "1")
    atLinked (fun f => f.name == "ValueError" && f.message == "Invalid IPv6 URL") (by decide +kernel)
  simp only [Bool.and_eq_true, beq_iff_eq] at shown
  exact ⟨f, w', run, shown⟩

end Links
end PageHarvest.StaticWorld
