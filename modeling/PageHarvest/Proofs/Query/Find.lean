import Mathlib
import PageHarvest.Proofs.Files.Selection
import PageHarvest.Query.Find

/-!
Which file a query's name finds. The name is a part of a pattern, so that some names find files of others,
and some fail; the others find a file of that name below the directory or none.
-/
namespace PageHarvest.Query
open FileTree

/-- A file of a name below a directory. -/
structure Named (t : FileTree) (d : Path) (id : String) (p : Path) : Prop where
  file : ∃ bytes, t.look p = some (.file bytes)
  inside : ∃ way, way ≠ [] ∧ (∀ name ∈ way, ProperName name) ∧ p = ⟨false, d.parts ++ way⟩
  stem : p.stem = id
  suffix : p.suffix ∈ endings

/-- A name of a file is no path. -/
theorem Named.whole {t : FileTree} {d : Path} {id : String} {p : Path} (named : Named t d id p) :
    '/' ∉ id.toList := by
  obtain ⟨way, filled, proper, rfl⟩ := named.inside
  have last : Path.name ⟨false, d.parts ++ way⟩ = way.getLast filled := by
    simp [Path.name, List.getLastD_eq_getLast?, List.getLast?_append, List.getLast?_eq_some_getLast filled]
  have sound := (proper _ (List.getLast_mem filled)).whole
  rw [← last] at sound
  rw [← named.stem, Path.stem, String.toList_ofList]
  exact fun mem => sound (List.mem_of_mem_take mem)

/-- Why nothing is found for a name: there is no directory to search, or the pattern that each ending makes of
the name selects no file in it, and no path that is too long is met on the way. -/
inductive Misses (t : FileTree) (d : Path) (id : String) : Prop where
  | elsewhere {e} (there : t.find d = .ok e) (other : e ≠ some .directory)
  | unmatched (there : t.find d = .ok (some .directory))
      (searched : ∀ ending ∈ endings, ∃ pattern, PatternPart.ofPattern (id ++ ending) = .ok pattern ∧
        ¬ t.Overruns (.anyDepth :: pattern) d.parts ∧
        ∀ there bytes, t.Selects (.anyDepth :: pattern) d.parts there →
          t.look ⟨false, there⟩ ≠ some (.file bytes))

/-- The search for a name comes to an answer, and what it finds has that name. -/
def KeepsToName (t : FileTree) (d : Path) (id : String) : Prop :=
  ∃ answer, findFile t d id = .ok answer ∧ ∀ p, answer = some p → Named t d id p

/-- Characters that are not only signs for themselves. -/
def wild (c : Char) : Bool :=
  c == '*' || c == '?' || c == '['

/-- A name, short enough to be looked up, that fits no names of files but its own. -/
structure Own (id : String) : Prop where
  filled : id ≠ ""
  unstarred : ('*', '*') ∉ id.toList.zip id.toList.tail
  short : (∃ c ∈ id.toList, wild c = true ∨ c = '\x00') ∨ id.utf8ByteSize ≤ 250
  fitting : ∀ ending ∈ endings, ∀ name, ProperName name →
    Wildcard.fits (Wildcard.signs (id ++ ending).toList) name.toList →
    ∃ ending' ∈ endings, name = id ++ ending'

section Endings

theorem exists_extension {ending : String} (mem : ending ∈ endings) :
    ∃ extension, ending.toList = '.' :: extension ∧ extension ≠ [] ∧ ∀ c ∈ extension, c ≠ '.' := by
  simp only [endings, List.mem_cons, List.not_mem_nil, or_false] at mem
  rcases mem with rfl | rfl | rfl
  · exact ⟨['j', 's', 'o', 'n'], rfl, by simp, by simp⟩
  · exact ⟨['y', 'a', 'm', 'l'], rfl, by simp, by simp⟩
  · exact ⟨['y', 'm', 'l'], rfl, by simp, by simp⟩

theorem append_ne_dots (id : String) {ending : String} (mem : ending ∈ endings) : id ++ ending ≠ ".." := by
  obtain ⟨extension, dotted, long, undotted⟩ := exists_extension mem
  obtain ⟨c, inside⟩ := List.exists_mem_of_ne_nil extension long
  intro same
  have there : c ∈ "..".toList := by
    rw [← same, String.toList_append, dotted]
    simp [inside]
  simp [undotted c inside] at there

theorem suffixOf_append {id ending : String} (filled : id ≠ "") (mem : ending ∈ endings) :
    Path.suffixOf (id ++ ending) = ending := by
  obtain ⟨extension, dotted, long, undotted⟩ := exists_extension mem
  have whole : (id ++ ending).toList = id.toList ++ '.' :: extension := by
    rw [String.toList_append, dotted]
  have tail : ((id ++ ending).toList.reverse.takeWhile (· != '.')).reverse = extension := by
    have plain : ∀ c ∈ extension.reverse, (c != '.') = true := by simpa using undotted
    rw [whole, List.reverse_append, List.reverse_cons, List.append_assoc, List.takeWhile_append_of_pos plain]
    simp
  have before : 0 < id.toList.length := List.length_pos_of_ne_nil (by simpa using filled)
  unfold Path.suffixOf
  dsimp only
  rw [tail, whole]
  have inner : (extension.isEmpty || decide ((id.toList ++ '.' :: extension).length ≤ extension.length + 1)) =
      false := by
    simp only [List.length_append, List.length_cons, Bool.or_eq_false_iff, List.isEmpty_eq_false_iff,
      decide_eq_false_iff_not]
    exact ⟨long, by omega⟩
  rw [inner, ← dotted]
  exact String.ofList_toList

theorem stem_of_name {id ending : String} (filled : id ≠ "") (mem : ending ∈ endings) {p : Path}
    (name : p.name = id ++ ending) : p.stem = id ∧ p.suffix = ending := by
  have suffix : p.suffix = ending := (congrArg Path.suffixOf name).trans (suffixOf_append filled mem)
  refine ⟨?_, suffix⟩
  have kept : (id ++ ending).toList.length - ending.toList.length = id.toList.length := by
    rw [String.toList_append, List.length_append, Nat.add_sub_cancel]
  unfold Path.stem
  rw [suffix, name, kept, String.toList_append, List.take_left]
  exact String.ofList_toList

end Endings

section Patterns

theorem pieces_of_whole {cs : List Char} (whole : '/' ∉ cs) : Path.pieces cs = [cs] := by
  induction cs with
  | nil => rfl
  | cons c rest ih =>
    obtain ⟨other, whole⟩ := not_or.mp (mt List.mem_cons.mpr whole)
    unfold Path.pieces
    split
    · cases ‹_ = _›
    · rename_i same
      cases same
      exact absurd rfl other
    · rename_i same
      cases same
      rw [ih whole]

/-- Signs of patterns, and slashes, come into a pattern by the name only. -/
theorem plain_ending {ending : String} (mem : ending ∈ endings) :
    '/' ∉ ending.toList ∧ '*' ∉ ending.toList ∧ ending.toList.any wild = false ∧ ending.utf8ByteSize ≤ 5 := by
  revert mem
  revert ending
  decide

theorem starred_append {ending : List Char} (plain : '*' ∉ ending) (cs : List Char) :
    ('*', '*') ∈ (cs ++ ending).zip (cs ++ ending).tail ↔ ('*', '*') ∈ cs.zip cs.tail := by
  induction cs with
  | nil =>
    refine ⟨fun mem => absurd (List.of_mem_zip mem).1 plain, fun mem => ?_⟩
    cases mem
  | cons c rest ih =>
    cases rest with
    | nil =>
      refine ⟨fun mem => absurd (List.of_mem_zip mem).2 plain, fun mem => ?_⟩
      cases mem
    | cons c' rest =>
      simp only [List.cons_append, List.tail_cons, List.zip_cons_cons, List.mem_cons] at ih ⊢
      rw [ih]

/-- A name with an ending, if it has no slash, is a pattern of one part. -/
theorem ofPattern_of_whole {id ending : String} (whole : '/' ∉ id.toList) (mem : ending ∈ endings) :
    PatternPart.ofPattern (id ++ ending) = (PatternPart.ofText (id ++ ending)).map ([·]) := by
  obtain ⟨extension, dotted, long, -⟩ := exists_extension mem
  have spelled : (id ++ ending).toList = id.toList ++ '.' :: extension := by
    rw [String.toList_append, dotted]
  have unslashed : '/' ∉ (id ++ ending).toList := by
    rw [String.toList_append, List.mem_append, not_or]
    exact ⟨whole, (plain_ending mem).1⟩
  have relative : ((id ++ ending).toList.head? == some '/') = false := by
    rw [beq_eq_false_iff_ne]
    intro first
    exact unslashed (List.mem_of_head? first)
  have kept : (!(id ++ ending).toList.isEmpty && (id ++ ending).toList != ['.']) = true := by
    rw [spelled]
    cases id.toList with
    | nil => simp [long]
    | cons c rest => simp
  have path : Path.ofText (id ++ ending) = ⟨false, [id ++ ending]⟩ := by
    unfold Path.ofText
    rw [relative, pieces_of_whole unslashed, List.filter_cons, if_pos kept]
    simp
  unfold PatternPart.ofPattern
  rw [path]
  dsimp only
  rw [if_neg Bool.false_ne_true, List.mapM_cons, List.mapM_nil]
  cases PatternPart.ofText (id ++ ending) <;> rfl

theorem ofText_append {id ending : String} (mem : ending ∈ endings) : PatternPart.ofText (id ++ ending) =
    if ('*', '*') ∈ id.toList.zip id.toList.tail then
      .error (Cause.badValue "Invalid pattern: '**' can only be an entire path component")
    else if id.toList.any wild then .ok (.shaped (Wildcard.signs (id ++ ending).toList))
    else .ok (.named (id ++ ending)) := by
  obtain ⟨-, unstarred, plain, -⟩ := plain_ending mem
  have deep : (id ++ ending == "**") = false := by
    rw [beq_eq_false_iff_ne]
    intro same
    have spelled := congrArg String.toList same
    rw [String.toList_append] at spelled
    obtain ⟨extension, dotted, -, -⟩ := exists_extension mem
    have dot : '.' ∈ "**".toList := by
      rw [← spelled, dotted]
      simp
    revert dot
    decide
  unfold PatternPart.ofText
  dsimp only
  rw [deep, if_neg Bool.false_ne_true]
  have signs : (id ++ ending).toList.any wild = id.toList.any wild := by
    rw [String.toList_append, List.any_append, plain, Bool.or_false]
  simp only [List.contains_eq_mem, decide_eq_true_eq]
  rw [← signs]
  simp only [String.toList_append, starred_append unstarred]
  rfl

/-- A pattern without signs fits itself only. -/
theorem fits_plain {cs : List Char} (plain : cs.any wild = false) (name : List Char) :
    Wildcard.fits (Wildcard.signs cs) name = true ↔ name = cs := by
  induction cs generalizing name with
  | nil =>
    rw [Wildcard.signs]
    cases name with
    | nil => simp [Wildcard.fits]
    | cons c name => simp [Wildcard.fits]
  | cons c rest ih =>
    rw [List.any_cons, Bool.or_eq_false_iff] at plain
    obtain ⟨here, plain⟩ := plain
    simp only [wild, Bool.or_eq_false_iff, beq_eq_false_iff_ne] at here
    have sign : Wildcard.signs (c :: rest) = .char c :: Wildcard.signs rest := by
      rw [Wildcard.signs]
      · exact here.1.1
      · exact here.1.2
      · exact here.2
    rw [sign]
    cases name with
    | nil => simp [Wildcard.fits]
    | cons c' name =>
      rw [Wildcard.fits, Bool.and_eq_true, ih plain, List.cons.injEq]
      · exact and_congr_left fun _ => beq_iff_eq.trans eq_comm
      · intro star
        cases star

theorem plain_append {id ending : String} (mem : ending ∈ endings) (plain : id.toList.any wild = false) :
    (id ++ ending).toList.any wild = false := by
  rw [String.toList_append, List.any_append, plain, (plain_ending mem).2.2.1, Bool.or_false]

/-- The part of a pattern that a name without slashes makes with an ending. -/
def partOf (id ending : String) : PatternPart :=
  if id.toList.any wild then .shaped (Wildcard.signs (id ++ ending).toList) else .named (id ++ ending)

theorem partOf_ne (id ending : String) : partOf id ending ≠ .anyDepth := by
  unfold partOf
  split <;> nofun

theorem ofPattern_eq_partOf {id ending : String} (whole : '/' ∉ id.toList) (mem : ending ∈ endings)
    (unstarred : ('*', '*') ∉ id.toList.zip id.toList.tail) :
    PatternPart.ofPattern (id ++ ending) = .ok [partOf id ending] := by
  rw [ofPattern_of_whole whole mem, ofText_append mem, if_neg unstarred, partOf]
  split <;> rfl

/-- A name stands for what fits it. With signs in it, only what is there comes into question. -/
theorem mem_tried_partOf {t : FileTree} {directory : List String} {id ending name : String}
    (mem : ending ∈ endings) : name ∈ t.tried directory (partOf id ending) ↔
      Wildcard.fits (Wildcard.signs (id ++ ending).toList) name.toList = true ∧
        (id.toList.any wild = true → name ∈ t.namesIn directory) := by
  unfold partOf
  cases signs : id.toList.any wild with
  | true => simp [tried, and_comm]
  | false =>
    rw [fits_plain (plain_append mem signs), String.toList_inj]
    simp [tried]

end Patterns

section Ranking

/-- Files that a name finds, before one is chosen. -/
def candidates (t : FileTree) (d : Path) (id : String) : Except Failure (List Path) :=
  (endings.mapM fun ending => do
    t.filesBelow d (← PatternPart.ofPattern (id ++ ending))).map List.flatten

/-- The first of some files by ending and path. -/
def preferred (found : List Path) : Except Failure (Option Path) := do
  let ranked ← found.mapM fun p => return (← rank p, p.text, p)
  let best := ranked.mergeSort fun a b => a.1 < b.1 || (a.1 == b.1 && a.2.1 ≤ b.2.1)
  return best.head?.map (·.2.2)

theorem findFile_of_directory {t : FileTree} {d : Path} (there : t.find d = .ok (some .directory))
    (id : String) : findFile t d id = candidates t d id >>= preferred := by
  have searched : findFile t d id = (endings.mapM fun ending => do
      t.filesBelow d (← PatternPart.ofPattern (id ++ ending))) >>= fun found => preferred found.flatten := by
    unfold findFile
    rw [there]
    rfl
  rw [searched, candidates]
  cases endings.mapM fun ending => do t.filesBelow d (← PatternPart.ofPattern (id ++ ending)) <;> rfl

theorem findFile_elsewhere {t : FileTree} {d : Path} {e : Option FileEntry} (there : t.find d = .ok e)
    (other : e ≠ some .directory) (id : String) : findFile t d id = .ok none := by
  unfold findFile
  rw [there]
  cases e with
  | none => rfl
  | some entry =>
    cases entry with
    | directory => exact absurd rfl other
    | file bytes => rfl

theorem rank_ok_iff (p : Path) : (∃ n, rank p = .ok n) ↔ p.suffix ∈ endings := by
  unfold rank
  cases place : endings.idxOf? p.suffix with
  | none => simp [List.idxOf?_eq_none_iff.mp place]
  | some n =>
    have there : p.suffix ∈ endings := by
      by_contra absent
      rw [List.idxOf?_eq_none_iff.mpr absent] at place
      cases place
    simp [there]

/-- When a name finds some files, the pattern of each ending has found its part of them. -/
theorem searched_of_candidates {t : FileTree} {d : Path} {id ending : String} {found : List Path}
    (gathered : candidates t d id = .ok found) (mem : ending ∈ endings) :
    ∃ pattern xs, PatternPart.ofPattern (id ++ ending) = .ok pattern ∧ t.filesBelow d pattern = .ok xs ∧
      ∀ p ∈ xs, p ∈ found := by
  obtain ⟨lists, made, -⟩ := map_ok_iff.mp gathered
  obtain ⟨xs, -, searched⟩ := (ok_of_mapM made).1 ending mem
  obtain ⟨pattern, read, searched'⟩ := bind_ok_iff.mp searched
  exact ⟨pattern, xs, read, searched', fun p inside =>
    (mem_flatten_of_mapM gathered).mpr ⟨ending, mem, xs, searched, inside⟩⟩

variable {found : List Path}

/-- All files that are compared have to have an ending. -/
theorem preferred_ok_iff : (∃ answer, preferred found = .ok answer) ↔ ∀ p ∈ found, p.suffix ∈ endings := by
  constructor
  · rintro ⟨answer, done⟩ p mem
    obtain ⟨ranked, made, -⟩ := bind_ok_iff.mp done
    obtain ⟨_, -, ranks⟩ := (ok_of_mapM made).1 p mem
    obtain ⟨n, known, -⟩ := bind_ok_iff.mp ranks
    exact (rank_ok_iff p).mp ⟨n, known⟩
  · intro ended
    have each (p : Path) (mem : p ∈ found) :
        ∃ r, (do return (← rank p, p.text, p) : Except Failure (Nat × String × Path)) = .ok r := by
      obtain ⟨n, known⟩ := (rank_ok_iff p).mpr (ended p mem)
      rw [known]
      exact ⟨_, rfl⟩
    obtain ⟨ranked, made⟩ := exists_mapM_ok each
    unfold preferred
    rw [made]
    exact ⟨_, rfl⟩

/-- The file that is chosen is one of those found, and one is chosen if there is any. -/
theorem mem_of_preferred {answer : Option Path} (done : preferred found = .ok answer) :
    (∀ p, answer = some p → p ∈ found) ∧ (answer = none → found = []) := by
  obtain ⟨ranked, made, same⟩ := bind_ok_iff.mp done
  cases same
  constructor
  · intro p chosen
    obtain ⟨r, first, rfl⟩ := Option.map_eq_some_iff.mp chosen
    have mem : r ∈ ranked := List.mem_mergeSort.mp (List.mem_of_head? first)
    obtain ⟨p, there, ranks⟩ := (ok_of_mapM made).2 r mem
    obtain ⟨n, -, same⟩ := bind_ok_iff.mp ranks
    cases same
    exact there
  · intro nothing
    have empty : ranked = [] := by
      have sorted := List.head?_eq_none_iff.mp (Option.map_eq_none_iff.mp nothing)
      refine List.eq_nil_iff_forall_not_mem.mpr fun r mem => ?_
      have kept : r ∈ ([] : List (Nat × String × Path)) := by
        rw [← sorted, List.mem_mergeSort]
        exact mem
      cases kept
    have length := (mapM_ok_iff.mp made).length_eq
    rw [empty] at length
    exact List.length_eq_zero_iff.mp length

theorem preferred_singleton {p : Path} (ended : p.suffix ∈ endings) : preferred [p] = .ok (some p) := by
  obtain ⟨answer, chosen⟩ := preferred_ok_iff.mpr (List.forall_mem_singleton.mpr ended)
  obtain ⟨inside, empty⟩ := mem_of_preferred chosen
  cases answer with
  | none => cases empty rfl
  | some q =>
    cases List.mem_singleton.mp (inside q rfl)
    exact chosen

theorem preferred_nil : preferred [] = .ok none := by
  obtain ⟨answer, chosen⟩ := preferred_ok_iff.mpr (List.forall_mem_nil _)
  cases answer with
  | none => exact chosen
  | some p => cases (mem_of_preferred chosen).1 p rfl

theorem candidates_eq_nil_iff {t : FileTree} {d : Path} {id : String} : candidates t d id = .ok [] ↔
    ∀ ending ∈ endings, ∃ pattern, PatternPart.ofPattern (id ++ ending) = .ok pattern ∧
      t.filesBelow d pattern = .ok [] := by
  constructor
  · intro none ending mem
    obtain ⟨pattern, xs, read, searched, inside⟩ := searched_of_candidates none mem
    rw [List.eq_nil_iff_forall_not_mem.mpr fun p there => List.not_mem_nil (inside p there)] at searched
    exact ⟨pattern, read, searched⟩
  · intro each
    have answers (ending : String) (mem : ending ∈ endings) :
        (do t.filesBelow d (← PatternPart.ofPattern (id ++ ending)) : Except Failure (List Path)) = .ok [] := by
      obtain ⟨pattern, read, searched⟩ := each ending mem
      rw [read]
      exact searched
    obtain ⟨lists, made⟩ := exists_mapM_ok fun ending mem => ⟨[], answers ending mem⟩
    have gathered : candidates t d id = .ok lists.flatten := by
      rw [candidates, made]
      rfl
    refine gathered.trans (congrArg _ (List.eq_nil_iff_forall_not_mem.mpr fun p mem => ?_))
    obtain ⟨ending, there, xs, searched, inside⟩ := (mem_flatten_of_mapM gathered).mp mem
    cases searched.symm.trans (answers ending there)
    exact List.not_mem_nil inside

theorem findFile_eq_none_iff {t : FileTree} {d : Path} {id : String} :
    findFile t d id = .ok none ↔ Misses t d id := by
  cases there : t.find d with
  | error f =>
    have failed : findFile t d id = .error f := by
      unfold findFile
      rw [there]
      rfl
    rw [failed]
    refine ⟨nofun, fun misses => ?_⟩
    cases misses with
    | elsewhere there' | unmatched there' => cases there.symm.trans there'
  | ok e =>
    by_cases directory : e = some .directory
    · subst directory
      rw [findFile_of_directory there]
      constructor
      · intro nothing
        obtain ⟨found, gathered, chosen⟩ := bind_ok_iff.mp nothing
        rw [(mem_of_preferred chosen).2 rfl] at gathered
        refine .unmatched there fun ending mem => ?_
        obtain ⟨pattern, read, searched⟩ := candidates_eq_nil_iff.mp gathered ending mem
        exact ⟨pattern, read, filesBelow_eq_nil_iff.mp searched⟩
      · intro misses
        cases misses with
        | elsewhere there' other =>
          cases there.symm.trans there'
          exact absurd rfl other
        | unmatched _ searched =>
          refine bind_ok_iff.mpr ⟨[], candidates_eq_nil_iff.mpr fun ending mem => ?_, preferred_nil⟩
          obtain ⟨pattern, read, none⟩ := searched ending mem
          exact ⟨pattern, read, filesBelow_eq_nil_iff.mpr none⟩
    · exact ⟨fun _ => .elsewhere there directory, fun _ => findFile_elsewhere there directory id⟩

end Ranking

/-- A short name without signs is one that fits its own files only. -/
theorem own_of_plain {id : String} (filled : id ≠ "") (plain : id.toList.any wild = false)
    (short : id.utf8ByteSize ≤ 250) : Own id := by
  refine ⟨filled, fun starred => ?_, .inr short, fun ending mem name _ fits => ⟨ending, mem, ?_⟩⟩
  · have signed := List.any_eq_false.mp plain '*' (List.of_mem_zip starred).1
    exact signed rfl
  · exact String.toList_inj.mp ((fits_plain (plain_append mem plain) _).mp fits)

theorem Own.looked_up {id ending name : String} (own : Own id) (mem : ending ∈ endings)
    (same : partOf id ending = .named name) :
    '\x00' ∈ name.toList ∨ name.utf8ByteSize ≤ longestName := by
  unfold partOf at same
  split at same
  · cases same
  · rename_i plain
    cases same
    rw [String.toList_append, List.mem_append, String.utf8ByteSize_append]
    rcases own.short with ⟨c, inside, signed | rfl⟩ | short
    · exact absurd (List.any_eq_true.mpr ⟨c, inside, signed⟩) plain
    · exact .inl (.inl inside)
    · have added := (plain_ending mem).2.2.2
      have limit : longestName = 255 := rfl
      exact .inr (by omega)

section Own
variable {t : FileTree} {d : Path} {id : String} (whole : '/' ∉ id.toList) (own : Own id) (proper : t.Proper)
include whole own proper

/-- Whatever such a name finds is a file of that name. -/
theorem named_of_candidates {directory : List String} (leads : t.resolve [] d.parts = some directory)
    {found : List Path} (done : candidates t d id = .ok found) {p : Path} (mem : p ∈ found) :
    Named t d id p := by
  obtain ⟨ending, ended, xs, searched, inside⟩ := (mem_flatten_of_mapM done).mp mem
  rw [ofPattern_eq_partOf whole ended own.unstarred] at searched
  obtain ⟨way, below, place, -, -, name, tried, rfl, file⟩ :=
    (mem_filesBelow leads (partOf_ne id ending) searched).mp inside
  obtain ⟨fits, listed⟩ := (mem_tried_partOf ended).mp tried
  obtain ⟨bytes, there⟩ := file
  have known : ProperName name := by
    cases signs : id.toList.any wild with
    | true => exact proper.namesIn (listed signs)
    | false =>
      have same : name = id ++ ending :=
        String.toList_inj.mp ((fits_plain (plain_append ended signs) _).mp fits)
      exact proper.of_look (same ▸ append_ne_dots id ended) there
  obtain ⟨ending', ended', rfl⟩ := own.fitting ending ended name known fits
  have last : Path.name ⟨false, d.parts ++ way ++ [id ++ ending']⟩ = id ++ ending' := by simp [Path.name]
  obtain ⟨stem, suffix⟩ := stem_of_name own.filled ended' last
  refine ⟨⟨bytes, there⟩, ⟨way ++ [id ++ ending'], by simp, ?_, by simp⟩, stem, by rwa [suffix]⟩
  intro name mem
  rcases List.mem_append.mp mem with before | last
  · exact proper.directoriesBelow below name before
  · cases List.mem_singleton.mp last
    exact known

theorem keepsToName_of_own (roomy : t.Roomy d) : KeepsToName t d id := by
  have found : t.find d = .ok (t.look d) := find_of_short roomy.short roomy.names
  by_cases there : t.look d = some .directory
  case neg => exact ⟨none, findFile_elsewhere found there id, nofun⟩
  obtain ⟨directory, leads, -⟩ := resolve_of_look there
  have each : ∀ ending ∈ endings, ∃ xs,
      (do t.filesBelow d (← PatternPart.ofPattern (id ++ ending)) : Except Failure (List Path)) = .ok xs := by
    intro ending ended
    rw [ofPattern_eq_partOf whole ended own.unstarred]
    exact filesBelow_ok proper roomy leads (partOf_ne id ending) fun name same => own.looked_up ended same
  obtain ⟨lists, made⟩ := exists_mapM_ok each
  have gathered : candidates t d id = .ok lists.flatten := by
    rw [candidates, made]
    rfl
  have all : ∀ p ∈ lists.flatten, Named t d id p :=
    fun p mem => named_of_candidates whole own proper leads gathered mem
  obtain ⟨answer, chosen⟩ := preferred_ok_iff.mpr fun p mem => (all p mem).suffix
  refine ⟨answer, ?_, fun p same => all p ((mem_of_preferred chosen).1 p same)⟩
  rw [findFile_of_directory (found.trans (congrArg _ there)), gathered]
  exact chosen

end Own

section Alone

/-- A directory with one empty file. -/
def alone (name : String) : FileTree :=
  ({} : FileTree).addFile ⟨false, [name]⟩ []

/-- The directory that paths start from. -/
def top : Path := ⟨false, []⟩

variable {name : String}

theorem find_top (t : FileTree) : t.find top = .ok (some .directory) :=
  find_of_short (by decide) nofun

theorem alone_proper (proper : ProperName name) : (alone name).Proper := by
  intro parts mem other inside
  have either : parts = [] ∨ parts = [name] := by
    simpa [alone, addFile, above, everything, Table.put, Table.putBy] using mem
  rcases either with rfl | rfl
  · cases inside
  · cases List.mem_singleton.mp inside
    exact proper

theorem alone_roomy (name : String) : (alone name).Roomy top := by
  refine ⟨nofun, by decide, fun here leads way below => ?_⟩
  cases leads
  have way_eq : way = [] := by
    simpa [alone, addFile, above, FileTree.directoriesBelow, List.eraseDups_nil] using below
  rw [way_eq]
  decide

theorem resolve_name (t : FileTree) (on : name ≠ "..") : t.resolve [] [name] = some [name] := by
  rw [resolve_cons_of_ne on]
  rfl

theorem look_alone (on : name ≠ "..") : (alone name).look ⟨false, [name]⟩ = some (.file []) := by
  have there : (alone name).at? [name] = some (.file []) := by
    simp [at?, FileTree.isDirectory, alone, addFile, above, Table.put, Table.putBy, Table.get?]
  unfold look
  rw [if_neg Bool.false_ne_true, resolve_name _ on]
  exact there

/-- The file is the only one. -/
theorem eq_of_look_alone {way : List String} (proper : ∀ part ∈ way, ProperName part) {bytes : List UInt8}
    (there : (alone name).look ⟨false, way⟩ = some (.file bytes)) : way = [name] := by
  have known := mem_files_of_look (fun part mem => (proper part mem).moves.2) there
  simpa [alone, addFile, Table.put, Table.putBy] using known

theorem mem_namesIn_alone (name : String) : name ∈ (alone name).namesIn [] := by
  refine List.mem_filterMap.mpr ⟨[name], List.mem_eraseDups.mpr ?_, rfl⟩
  simp [alone, addFile, Table.put, Table.putBy]

end Alone

section Converse
variable {id : String} (whole : '/' ∉ id.toList)
  (keeps : ∀ t d, FileTree.Proper t → FileTree.Roomy t d → KeepsToName t d id)
include keeps

/-- What a name finds in the directory of one file. -/
theorem answer_alone {name : String} (proper : ProperName name) : ∃ found answer,
    candidates (alone name) top id = .ok found ∧ preferred found = .ok answer ∧
      ∀ p, answer = some p → Named (alone name) top id p := by
  obtain ⟨answer, done, named⟩ := keeps _ _ (alone_proper proper) (alone_roomy name)
  rw [findFile_of_directory (find_top _)] at done
  obtain ⟨found, gathered, chosen⟩ := bind_ok_iff.mp done
  exact ⟨found, answer, gathered, chosen, named⟩

include whole

theorem unstarred_of_keeps : ('*', '*') ∉ id.toList.zip id.toList.tail := by
  intro starred
  have proper : ProperName "a" := by decide
  have mem : ".json" ∈ endings := by decide
  obtain ⟨found, _, gathered, -⟩ := answer_alone keeps proper
  obtain ⟨_, _, read, -⟩ := searched_of_candidates gathered mem
  rw [ofPattern_of_whole whole mem, ofText_append mem, if_pos starred] at read
  cases read

/-- A file that fits a name is found by it. -/
theorem found_of_fits {name ending : String} (proper : ProperName name) (mem : ending ∈ endings)
    (fits : Wildcard.fits (Wildcard.signs (id ++ ending).toList) name.toList = true) {found : List Path}
    (gathered : candidates (alone name) top id = .ok found) : ⟨false, [name]⟩ ∈ found := by
  obtain ⟨_, xs, read, searched, inside⟩ := searched_of_candidates gathered mem
  cases (ofPattern_eq_partOf whole mem (unstarred_of_keeps whole keeps)).symm.trans read
  refine inside _ ((mem_filesBelow rfl (partOf_ne id ending) searched).mpr ?_)
  have tried : name ∈ (alone name).tried [] (partOf id ending) :=
    (mem_tried_partOf mem).mpr ⟨fits, fun _ => mem_namesIn_alone name⟩
  exact ⟨[], List.mem_cons_self, [], rfl, rfl, name, tried, rfl, [], look_alone proper.moves.2⟩

theorem filled_of_keeps : id ≠ "" := by
  rintro rfl
  have proper : ProperName ".json" := by decide
  have mem : ".json" ∈ endings := by decide
  obtain ⟨found, answer, gathered, chosen, -⟩ := answer_alone keeps proper
  have fits : Wildcard.fits (Wildcard.signs ("" ++ ".json").toList) ".json".toList = true :=
    (fits_plain (plain_append mem rfl) _).mpr rfl
  have ended := preferred_ok_iff.mp ⟨answer, chosen⟩ _ (found_of_fits whole keeps proper mem fits gathered)
  revert ended
  decide

theorem short_of_keeps :
    (∃ c ∈ id.toList, wild c = true ∨ c = '\x00') ∨ id.utf8ByteSize ≤ 250 := by
  by_contra long
  obtain ⟨unsigned, long⟩ := not_or.mp long
  have proper : ProperName "a" := by decide
  have mem : ".json" ∈ endings := by decide
  obtain ⟨found, _, gathered, -⟩ := answer_alone keeps proper
  obtain ⟨_, xs, read, searched, -⟩ := searched_of_candidates gathered mem
  cases (ofPattern_eq_partOf whole mem (unstarred_of_keeps whole keeps)).symm.trans read
  have plain : id.toList.any wild = false :=
    List.any_eq_false.mpr fun c inside signed => unsigned ⟨c, inside, .inl signed⟩
  have tried : id ++ ".json" ∈ (alone "a").tried [] (partOf id ".json") :=
    (mem_tried_partOf mem).mpr
      ⟨(fits_plain (plain_append mem plain) _).mpr rfl, fun signed => by simp [plain] at signed⟩
  have leads : (alone "a").resolve [] (top.parts ++ []) = some [] := rfl
  have fine := looked_of_filesBelow rfl (partOf_ne id ".json") searched List.mem_cons_self rfl leads tried
  have readable : '\x00' ∉ (id ++ ".json").toList := by
    rw [String.toList_append, List.mem_append, not_or]
    exact ⟨fun null => unsigned ⟨_, null, .inr rfl⟩, by decide⟩
  have meets : (alone "a").meetsLongName ⟨false, [] ++ [id ++ ".json"]⟩ = true := by
    refine ((alone_proper proper).meetsLongName_concat_iff rfl readable).mpr (.inr ?_)
    have limit : longestName = 255 := rfl
    have added : ".json".utf8ByteSize = 5 := rfl
    rw [String.utf8ByteSize_append]
    omega
  exact Bool.noConfusion (meets.symm.trans fine)

theorem own_of_keeps : Own id := by
  constructor
  case filled => exact filled_of_keeps whole keeps
  case unstarred => exact unstarred_of_keeps whole keeps
  case short => exact short_of_keeps whole keeps
  case fitting =>
    intro ending mem name proper fits
    obtain ⟨found, answer, gathered, chosen, named⟩ := answer_alone keeps proper
    have there := found_of_fits whole keeps proper mem fits gathered
    cases answer with
    | none =>
      rw [(mem_of_preferred chosen).2 rfl] at there
      cases there
    | some p =>
      obtain ⟨⟨bytes, file⟩, ⟨way, -, parts, rfl⟩, stem, suffix⟩ := named p rfl
      have same : way = [name] := eq_of_look_alone parts file
      rw [same] at stem suffix
      refine ⟨_, suffix, ?_⟩
      rw [← stem, Path.stem_append_suffix]
      rfl

end Converse

/-- A name without slashes finds files of that name or none, on every tree with room for names, exactly if it
fits no other file's name. A name with a slash keeps to itself exactly where it finds nothing, for one of the
reasons that there are for this. -/
theorem findFile_keeps_to_name_iff (id : String) :
    ('/' ∉ id.toList → ((∀ t d, FileTree.Proper t → FileTree.Roomy t d → KeepsToName t d id) ↔ Own id)) ∧
    ('/' ∈ id.toList → ∀ t d, (KeepsToName t d id ↔ findFile t d id = .ok none) ∧
      (findFile t d id = .ok none ↔ Misses t d id)) := by
  constructor
  · intro whole
    exact ⟨own_of_keeps whole, fun own t d proper roomy => keepsToName_of_own whole own proper roomy⟩
  · intro slashed t d
    refine ⟨⟨?_, fun nothing => ⟨none, nothing, nofun⟩⟩, findFile_eq_none_iff⟩
    rintro ⟨answer, done, named⟩
    cases answer with
    | none => exact done
    | some p => exact absurd slashed (named p rfl).whole

/-- A shelf with one definition, and a file beside it. -/
def shelf : FileTree where
  files := [(["queries", "new", "tea.json"], []), (["private.json"], [])]
  directories := [[], ["queries"], ["queries", "new"]]

theorem findFile_shelf {id : String} {p : Path} (ended : p.suffix ∈ endings)
    (pattern : String → List PatternPart)
    (read : ∀ ending ∈ endings, PatternPart.ofPattern (id ++ ending) = .ok (pattern ending))
    (json : shelf.filesBelow home (pattern ".json") = .ok [p])
    (yaml : shelf.filesBelow home (pattern ".yaml") = .ok [])
    (yml : shelf.filesBelow home (pattern ".yml") = .ok []) : findFile shelf home id = .ok (some p) := by
  have there : shelf.find home = .ok (some .directory) := by cbv
  have searched : ∀ ending ∈ endings, (do shelf.filesBelow home (← PatternPart.ofPattern (id ++ ending))) =
      shelf.filesBelow home (pattern ending) := by
    intro ending mem
    rw [read ending mem]
    rfl
  have lists : (endings.mapM fun ending => do
      shelf.filesBelow home (← PatternPart.ofPattern (id ++ ending))) = .ok [[p], [], []] :=
    mapM_ok_iff.mpr (.cons ((searched _ (by decide)).trans json)
      (.cons ((searched _ (by decide)).trans yaml) (.cons ((searched _ (by decide)).trans yml) .nil)))
  have gathered : candidates shelf home id = .ok [p] := congrArg (Except.map List.flatten) lists
  rw [findFile_of_directory there, gathered]
  exact preferred_singleton ended

theorem findFile_keeps_to_name_at_tea : '/' ∉ "tea".toList ∧ Own "tea" ∧ shelf.Proper ∧ shelf.Roomy home ∧
    KeepsToName shelf home "tea" ∧
    findFile shelf home "tea" = .ok (some ⟨false, ["queries", "new", "tea.json"]⟩) := by
  have whole : '/' ∉ "tea".toList := by decide
  have own : Own "tea" := own_of_plain (by decide) rfl (by decide)
  have proper : shelf.Proper := by
    unfold FileTree.Proper
    decide
  have roomy : shelf.Roomy home := by
    refine ⟨by decide, by decide, fun here leads => ?_⟩
    cases leads
    decide
  have found : findFile shelf home "tea" = .ok (some ⟨false, ["queries", "new", "tea.json"]⟩) :=
    findFile_shelf (by decide) (fun ending => [.named ("tea" ++ ending)])
      (by simp only [endings, List.forall_mem_cons]; exact ⟨rfl, rfl, rfl, nofun⟩) (by cbv) (by cbv) (by cbv)
  have keeps := ((findFile_keeps_to_name_iff "tea").1 whole).mpr own shelf home proper roomy
  exact ⟨whole, own, proper, roomy, keeps, found⟩

/-- Two dots in a name lead out of the directory. -/
theorem name_leads_outside :
    findFile shelf home "../private" = .ok (some ⟨false, ["queries", "..", "private.json"]⟩) ∧
    ¬ KeepsToName shelf home "../private" := by
  have found : findFile shelf home "../private" = .ok (some ⟨false, ["queries", "..", "private.json"]⟩) :=
    findFile_shelf (by decide) (fun ending => [.named "..", .named ("private" ++ ending)])
      (by simp only [endings, List.forall_mem_cons]; exact ⟨rfl, rfl, rfl, nofun⟩) (by cbv) (by cbv) (by cbv)
  refine ⟨found, ?_⟩
  rintro ⟨answer, done, named⟩
  cases found.symm.trans done
  exact (named _ rfl).whole (by decide)

end PageHarvest.Query
