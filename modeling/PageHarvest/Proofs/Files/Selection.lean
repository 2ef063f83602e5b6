import PageHarvest.Proofs.Files.Search

/-!
What patterns of any length select. Each part leads on from where the parts before it have led, through
directories; a search comes to an answer if no path that it looks up on these ways is too long.
-/
namespace PageHarvest.FileTree
variable {t : FileTree}

/-- A part of a pattern leads from one path to another, whatever is there. -/
def Leads (t : FileTree) (part : PatternPart) (here next : List String) : Prop :=
  ∃ directory, t.resolve [] here = some directory ∧ ∃ way ∈ t.ways directory part, next = here ++ way

/-- What a pattern selects from a path. -/
inductive Selects (t : FileTree) : List PatternPart → List String → List String → Prop where
  | here (here) : Selects t [] here here
  | inside {part rest here next there} (leads : t.Leads part here next)
      (directory : t.look ⟨false, next⟩ = some .directory) (more : Selects t rest next there) :
      Selects t (part :: rest) here there
  | file {part here next bytes} (leads : t.Leads part here next)
      (file : t.look ⟨false, next⟩ = some (.file bytes)) : Selects t [part] here next

/-- A path is too long that is looked up on the ways of a pattern. -/
inductive Overruns (t : FileTree) : List PatternPart → List String → Prop where
  | here {part rest here next} (leads : t.Leads part here next)
      (long : t.meetsLongName ⟨false, next⟩ = true) : Overruns t (part :: rest) here
  | inside {part rest here next} (leads : t.Leads part here next)
      (directory : t.look ⟨false, next⟩ = some .directory) (more : Overruns t rest next) :
      Overruns t (part :: rest) here

theorem selectFrom_lost (part : PatternPart) (rest : List PatternPart) {here : List String}
    (lost : t.resolve [] here = none) : t.selectFrom (part :: rest) here = .ok [] := by
  rw [selectFrom, lost]

/-- What the rest of a pattern comes to at a path depends on what is there. -/
theorem selectAt_eq (rest : List PatternPart) {there : List String}
    (short : t.meetsLongName ⟨false, there⟩ = false) : t.selectAt rest there =
      match t.look ⟨false, there⟩ with
      | some .directory => t.selectFrom rest there
      | some (.file _) => .ok (if rest.isEmpty then [there] else [])
      | none => .ok [] := by
  unfold selectAt
  rw [find_eq_look short]
  cases t.look ⟨false, there⟩ with
  | none => rfl
  | some e => cases e <;> rfl

theorem selectAt_long (rest : List PatternPart) {there : List String}
    (long : t.meetsLongName ⟨false, there⟩ = true) : ∃ f, t.selectAt rest there = .error f := by
  unfold selectAt find
  rw [if_pos long]
  exact ⟨_, rfl⟩

theorem not_overruns_of_selectFrom {pattern : List PatternPart} {here : List String}
    {found : List (List String)} (done : t.selectFrom pattern here = .ok found) : ¬ t.Overruns pattern here := by
  intro overruns
  induction overruns generalizing found with
  | here leads long =>
    obtain ⟨directory, resolved, way, tried, rfl⟩ := leads
    rw [selectFrom_cons resolved] at done
    obtain ⟨all, made, -⟩ := map_ok_iff.mp done
    obtain ⟨xs, -, answered⟩ := (ok_of_mapM made).1 way tried
    obtain ⟨f, failed⟩ := selectAt_long _ long
    cases failed.symm.trans answered
  | inside leads directory _ ih =>
    obtain ⟨place, resolved, way, tried, rfl⟩ := leads
    rw [selectFrom_cons resolved] at done
    obtain ⟨all, made, -⟩ := map_ok_iff.mp done
    obtain ⟨xs, -, answered⟩ := (ok_of_mapM made).1 way tried
    obtain ⟨e, looked, answered⟩ := bind_ok_iff.mp answered
    cases directory.symm.trans (look_of_find looked)
    exact ih answered

/-- What the rest of a pattern selects where a part has led: the file that is there, if nothing is left, or
what is selected from the directory that is there. -/
def SelectsAt (t : FileTree) (rest : List PatternPart) (next there : List String) : Prop :=
  t.look ⟨false, next⟩ = some .directory ∧ t.Selects rest next there ∨
    (∃ bytes, t.look ⟨false, next⟩ = some (.file bytes)) ∧ rest = [] ∧ there = next

theorem selects_cons_iff {part : PatternPart} {rest : List PatternPart} {here directory : List String}
    (resolved : t.resolve [] here = some directory) {there : List String} :
    t.Selects (part :: rest) here there ↔ ∃ way ∈ t.ways directory part, t.SelectsAt rest (here ++ way) there := by
  constructor
  · intro selects
    cases selects with
    | inside leads looked more =>
      obtain ⟨_, resolved', way, tried, rfl⟩ := leads
      cases resolved.symm.trans resolved'
      exact ⟨way, tried, .inl ⟨looked, more⟩⟩
    | file leads looked =>
      obtain ⟨_, resolved', way, tried, rfl⟩ := leads
      cases resolved.symm.trans resolved'
      exact ⟨way, tried, .inr ⟨⟨_, looked⟩, rfl, rfl⟩⟩
  · rintro ⟨way, tried, ⟨looked, more⟩ | ⟨⟨bytes, looked⟩, rfl, rfl⟩⟩
    · exact .inside ⟨directory, resolved, way, tried, rfl⟩ looked more
    · exact .file ⟨directory, resolved, way, tried, rfl⟩ looked

theorem not_selects_of_lost {part : PatternPart} {rest : List PatternPart} {here there : List String}
    (lost : t.resolve [] here = none) : ¬ t.Selects (part :: rest) here there := by
  intro selects
  cases selects with
  | inside leads | file leads =>
    obtain ⟨_, resolved, -⟩ := leads
    cases lost.symm.trans resolved

theorem exists_selectAt {rest : List PatternPart} {next : List String}
    (short : t.meetsLongName ⟨false, next⟩ = false)
    (below : t.look ⟨false, next⟩ = some .directory → ∃ found, t.selectFrom rest next = .ok found ∧
      ∀ there, there ∈ found ↔ t.Selects rest next there) :
    ∃ found, t.selectAt rest next = .ok found ∧ ∀ there, there ∈ found ↔ t.SelectsAt rest next there := by
  unfold SelectsAt
  rw [selectAt_eq rest short]
  cases looked : t.look ⟨false, next⟩ with
  | none => exact ⟨[], rfl, by simp⟩
  | some e =>
    cases e with
    | directory =>
      obtain ⟨found, done, selected⟩ := below looked
      exact ⟨found, done, by simp [selected]⟩
    | file bytes => exact ⟨_, rfl, by cases rest <;> simp⟩

/-- A search comes to an answer if no path on its way is too long, and it has then selected what the pattern
selects. -/
theorem exists_selectFrom {pattern : List PatternPart} {here : List String}
    (roomy : ¬ t.Overruns pattern here) : ∃ found, t.selectFrom pattern here = .ok found ∧
      ∀ there, there ∈ found ↔ t.Selects pattern here there := by
  induction pattern generalizing here with
  | nil =>
    refine ⟨[here], rfl, fun there => ?_⟩
    rw [List.mem_singleton]
    constructor
    · rintro rfl
      exact .here there
    · rintro ⟨⟩
      rfl
  | cons part rest ih =>
    cases resolved : t.resolve [] here with
    | none =>
      refine ⟨[], selectFrom_lost part rest resolved, fun there => ?_⟩
      exact iff_of_false List.not_mem_nil (not_selects_of_lost resolved)
    | some directory =>
      have each (way : List String) (tried : way ∈ t.ways directory part) : ∃ found,
          t.selectAt rest (here ++ way) = .ok found ∧
            ∀ there, there ∈ found ↔ t.SelectsAt rest (here ++ way) there := by
        have leads : t.Leads part here (here ++ way) := ⟨directory, resolved, way, tried, rfl⟩
        have short : t.meetsLongName ⟨false, here ++ way⟩ = false :=
          Bool.eq_false_iff.mpr fun long => roomy (.here leads long)
        exact exists_selectAt short fun looked => ih fun more => roomy (.inside leads looked more)
      obtain ⟨all, made⟩ := exists_mapM_ok fun way tried => (each way tried).imp fun _ done => done.1
      have gathered : ((t.ways directory part).mapM fun way => t.selectAt rest (here ++ way)).map List.flatten =
          .ok all.flatten := by
        rw [made]
        rfl
      refine ⟨all.flatten, (selectFrom_cons resolved part rest).trans gathered, fun there => ?_⟩
      rw [mem_flatten_of_mapM gathered, selects_cons_iff resolved]
      refine exists_congr fun way => and_congr_right fun tried => ?_
      obtain ⟨found, done, selected⟩ := each way tried
      rw [← selected, done]
      simp

/-- A search for files comes to none if no path on its way is too long and nothing that is selected is a
file. -/
theorem filesBelow_eq_nil_iff {d : Path} {pattern : List PatternPart} : t.filesBelow d pattern = .ok [] ↔
    ¬ t.Overruns (.anyDepth :: pattern) d.parts ∧
      ∀ there bytes, t.Selects (.anyDepth :: pattern) d.parts there →
        t.look ⟨false, there⟩ ≠ some (.file bytes) := by
  constructor
  · intro empty
    obtain ⟨ways, done, kept⟩ := selectFrom_of_filesBelow empty
    have roomy := not_overruns_of_selectFrom done
    obtain ⟨found, done', selected⟩ := exists_selectFrom roomy
    cases done.symm.trans done'
    refine ⟨roomy, fun there bytes selects file => ?_⟩
    exact List.not_mem_nil ((kept _).mpr ⟨⟨there, (selected there).mpr selects, rfl⟩, bytes, file⟩)
  · rintro ⟨roomy, none⟩
    obtain ⟨found, done, selected⟩ := exists_selectFrom roomy
    obtain ⟨files, made⟩ : ∃ files, t.filesBelow d pattern = .ok files := ⟨_, bind_ok_iff.mpr ⟨found, done, rfl⟩⟩
    obtain ⟨ways, done', kept⟩ := selectFrom_of_filesBelow made
    cases done.symm.trans done'
    suffices empty : files = [] by rw [made, empty]
    refine List.eq_nil_iff_forall_not_mem.mpr fun p mem => ?_
    obtain ⟨⟨there, selects, rfl⟩, bytes, file⟩ := (kept p).mp mem
    exact none there bytes ((selected there).mp selects) file

end PageHarvest.FileTree
