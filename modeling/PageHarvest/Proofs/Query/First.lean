import PageHarvest.Proofs.Query.Find

/-!
Which of several files of one name is found. The search goes through a whole tree, in the order in which the
tree lists its directories; what it answers is the first of all files of the name, by ending and path,
whatever that order is.
-/
namespace PageHarvest.Query
open FileTree

/-- A name that stands for itself in a pattern. -/
structure Literal (id : String) : Prop where
  filled : id ≠ ""
  whole : '/' ∉ id.toList
  readable : '\x00' ∉ id.toList
  plain : id.toList.any wild = false

/-- One file comes before another by its ending, or with the same ending by its path. -/
def Precedes (p q : Path) : Prop :=
  endings.idxOf p.suffix < endings.idxOf q.suffix ∨ p.suffix = q.suffix ∧ p.text ≤ q.text

instance (p q : Path) : Decidable (Precedes p q) :=
  inferInstanceAs (Decidable (_ ∨ _))

/-- The search for a name answers with the first file of that name, if there is one, and there is a format
for that file. -/
structure FindsFirst (t : FileTree) (d : Path) (id : String) : Prop where
  answers : ∃ answer, findFile t d id = .ok answer
  none_iff : findFile t d id = .ok none ↔ t.look d ≠ some .directory ∨ ∀ p, ¬ Named t d id p
  some_iff : ∀ p, findFile t d id = .ok (some p) ↔
    t.look d = some .directory ∧ Named t d id p ∧ ∀ q, Named t d id q → Precedes p q
  loads : ∀ p, findFile t d id = .ok (some p) → ∃ format, FileFormat.ofPath p = .ok format

/-- No path is too long that the search for a name looks up. -/
structure Reachable (t : FileTree) (d : Path) (id : String) : Prop where
  directory : t.meetsLongName d = false
  name : t.look d = some .directory → id.utf8ByteSize ≤ 250
  below : t.look d = some .directory → ∀ way, (∀ name ∈ way, ProperName name) →
    t.look ⟨false, d.parts ++ way⟩ = some .directory →
      (Path.text ⟨false, d.parts ++ way ++ [id ++ ".json"]⟩).utf8ByteSize ≤ longestPath

section Choice

/-- The order in which files are chosen, on what they are sorted by. -/
def noLater (a b : Nat × String × Path) : Bool :=
  a.1 < b.1 || (a.1 == b.1 && a.2.1 ≤ b.2.1)

theorem noLater_iff (a b : Nat × String × Path) :
    noLater a b = true ↔ a.1 < b.1 ∨ a.1 = b.1 ∧ a.2.1 ≤ b.2.1 := by
  simp [noLater]

theorem noLater_trans (a b c : Nat × String × Path) (first : noLater a b = true) (next : noLater b c = true) :
    noLater a c = true := by
  rw [noLater_iff] at first next ⊢
  rcases first with less | ⟨same, before⟩
  · rcases next with less' | ⟨same', -⟩
    · exact .inl (less.trans less')
    · exact .inl (same' ▸ less)
  · rcases next with less' | ⟨same', before'⟩
    · exact .inl (same ▸ less')
    · exact .inr ⟨same.trans same', String.le_trans before before'⟩

theorem noLater_total (a b : Nat × String × Path) : (noLater a b || noLater b a) = true := by
  rw [Bool.or_eq_true, noLater_iff, noLater_iff]
  rcases Nat.lt_trichotomy a.1 b.1 with less | same | more
  · exact .inl (.inl less)
  · rcases String.le_total a.2.1 b.2.1 with before | after
    · exact .inl (.inr ⟨same, before⟩)
    · exact .inr (.inr ⟨same.symm, after⟩)
  · exact .inr (.inl more)

theorem rank_of_mem {p : Path} (ended : p.suffix ∈ endings) : rank p = .ok (endings.idxOf p.suffix) := by
  have each : ∀ ending ∈ endings, endings.idxOf? ending = some (endings.idxOf ending) := by decide
  unfold rank
  rw [each p.suffix ended]

theorem precedes_of_noLater {p q : Path} (ended : p.suffix ∈ endings)
    (before : noLater (endings.idxOf p.suffix, p.text, p) (endings.idxOf q.suffix, q.text, q) = true) :
    Precedes p q := by
  rcases (noLater_iff _ _).mp before with less | ⟨same, before⟩
  · exact .inl less
  · exact .inr ⟨(List.idxOf_inj ended).mp same, before⟩

/-- Of files with endings, the first is chosen. -/
theorem precedes_of_preferred {found : List Path} (ended : ∀ q ∈ found, q.suffix ∈ endings) {p : Path}
    (chosen : preferred found = .ok (some p)) : ∀ q ∈ found, Precedes p q := by
  obtain ⟨ranked, made, same⟩ := bind_ok_iff.mp chosen
  have keyed (q : Path) (mem : q ∈ found) : (endings.idxOf q.suffix, q.text, q) ∈ ranked := by
    obtain ⟨e, inside, ranks⟩ := (ok_of_mapM made).1 q mem
    rw [rank_of_mem (ended q mem)] at ranks
    cases ranks
    exact inside
  obtain ⟨first, head, rfl⟩ := Option.map_eq_some_iff.mp (Except.ok.inj same)
  have sorted : (ranked.mergeSort noLater).Pairwise fun a b => noLater a b = true :=
    List.pairwise_mergeSort noLater_trans noLater_total ranked
  have leads : (ranked.mergeSort noLater).head? = some first := head
  obtain ⟨others, split⟩ := List.head?_eq_some_iff.mp leads
  have leading : ∀ e ∈ ranked, noLater first e = true := by
    intro e mem
    have inside : e ∈ ranked.mergeSort noLater := List.mem_mergeSort.mpr mem
    rw [split] at inside sorted
    rcases List.mem_cons.mp inside with rfl | later
    · have both := noLater_total e e
      rwa [Bool.or_self] at both
    · exact List.rel_of_pairwise_cons sorted later
  have known : first ∈ ranked := List.mem_mergeSort.mp (List.mem_of_head? head)
  obtain ⟨p, mem, ranks⟩ := (ok_of_mapM made).2 first known
  rw [rank_of_mem (ended p mem)] at ranks
  cases ranks
  exact fun q inside => precedes_of_noLater (ended p mem) (leading _ (keyed q inside))

end Choice

section Names
variable {t : FileTree} {d : Path} {id : String}

/-- Paths of names without slashes are told apart by their texts. -/
theorem way_of_text {parts way way' : List String} (filled : way ≠ []) (filled' : way' ≠ [])
    (whole : ∀ name ∈ way, '/' ∉ name.toList) (whole' : ∀ name ∈ way', '/' ∉ name.toList)
    (same : Path.text ⟨false, parts ++ way⟩ = Path.text ⟨false, parts ++ way'⟩) : way = way' := by
  have joined (way : List String) (filled : way ≠ []) : Path.text ⟨false, parts ++ way⟩ =
      (if parts = [] then "" else "/".intercalate parts ++ "/") ++ "/".intercalate way := by
    by_cases none : parts = []
    · simp [Path.text, none, filled]
    · simp [Path.text, none, String.intercalate_append_of_ne_nil none filled]
  rw [joined way filled, joined way' filled', String.append_right_inj] at same
  have split (way : List String) (filled : way ≠ []) (whole : ∀ name ∈ way, '/' ∉ name.toList) :
      ("/".intercalate way).toList.splitOn '/' = way.map String.toList := by
    rw [String.toList_intercalate]
    refine List.splitOn_intercalate '/' ?_ (by simpa using filled)
    intro cs mem
    obtain ⟨name, inside, rfl⟩ := List.mem_map.mp mem
    exact whole name inside
  have names := (split way filled whole).symm.trans (same ▸ split way' filled' whole')
  exact List.map_injective_iff.mpr (fun _ _ => String.toList_inj.mp) names

theorem Precedes.text_le {p q : Path} (before : Precedes p q) (same : p.suffix = q.suffix) :
    p.text ≤ q.text := by
  rcases before with less | ⟨-, before⟩
  · rw [same] at less
    exact absurd less (Nat.lt_irrefl _)
  · exact before

/-- Of two files of a name, only one comes first. -/
theorem Named.eq_of_precedes {p q : Path} (named : Named t d id p) (named' : Named t d id q)
    (before : Precedes p q) (after : Precedes q p) : p = q := by
  have suffix : p.suffix = q.suffix := by
    rcases before with less | ⟨same, -⟩
    · rcases after with more | ⟨same, -⟩
      · exact absurd less (Nat.not_lt.mpr more.le)
      · exact same.symm
    · exact same
  have same := String.le_antisymm (before.text_le suffix) (after.text_le suffix.symm)
  obtain ⟨way, filled, proper, rfl⟩ := named.inside
  obtain ⟨way', filled', proper', rfl⟩ := named'.inside
  rw [way_of_text filled filled' (fun name mem => (proper name mem).whole)
    (fun name mem => (proper' name mem).whole) same]

/-- A file of a name is in a directory, under the name with an ending. -/
theorem Named.way {p : Path} (named : Named t d id p) : ∃ way place, (∀ name ∈ way, ProperName name) ∧
    p = ⟨false, d.parts ++ way ++ [id ++ p.suffix]⟩ ∧ t.resolve [] (d.parts ++ way) = some place ∧
      t.isDirectory place = true := by
  obtain ⟨bytes, file⟩ := named.file
  obtain ⟨way, filled, proper, parts⟩ := named.inside
  obtain ⟨before, last, rfl⟩ := (List.eq_nil_or_concat' way).resolve_left filled
  have name : id ++ p.suffix = last := by
    rw [← named.stem, Path.stem_append_suffix, parts]
    simp [Path.name]
  obtain ⟨place, leads, -⟩ := resolve_of_look file
  rw [parts, ← List.append_assoc] at leads
  obtain ⟨directory, leads, inside, -⟩ := resolve_concat leads
  refine ⟨before, directory, fun name mem => proper name (List.mem_append_left _ mem), ?_, leads, inside⟩
  rw [name, List.append_assoc]
  exact parts

/-- The format of a file is known by its ending. -/
theorem loadable {p : Path} (ended : p.suffix ∈ endings) : ∃ format, FileFormat.ofPath p = .ok format := by
  have lower : ∀ ending ∈ endings, Text.lower ending = ending := by decide +kernel
  unfold FileFormat.ofPath
  rw [lower p.suffix ended]
  simp only [endings, List.mem_cons, List.not_mem_nil, or_false] at ended
  rcases ended with json | yaml | yml
  · rw [json]
    exact ⟨_, rfl⟩
  · rw [yaml]
    exact ⟨_, rfl⟩
  · rw [yml]
    exact ⟨_, rfl⟩

end Names

section Search
variable {t : FileTree} {d : Path} {id : String}

theorem look_parts {e : FileEntry} (there : t.look d = some e) : t.look ⟨false, d.parts⟩ = some e := by
  unfold look at there ⊢
  split at there
  · cases there
  · rwa [if_neg Bool.false_ne_true]

/-- The search of a directory goes every way that leads from it to another. -/
theorem below_of_leads {way directory place : List String} (names : ∀ name ∈ way, ProperName name)
    (leads : t.resolve [] d.parts = some directory) (leads' : t.resolve [] (d.parts ++ way) = some place)
    (inside : t.isDirectory place = true) : way ∈ t.directoriesBelow directory := by
  rw [resolve_append, leads] at leads'
  exact mem_directoriesBelow (fun name mem => (names name mem).moves.2) leads' inside

theorem Literal.pattern (literal : Literal id) {ending : String} (mem : ending ∈ endings) :
    PatternPart.ofPattern (id ++ ending) = .ok [.named (id ++ ending)] := by
  have unstarred : ('*', '*') ∉ id.toList.zip id.toList.tail := fun starred =>
    List.any_eq_false.mp literal.plain '*' (List.of_mem_zip starred).1 rfl
  rw [ofPattern_eq_partOf literal.whole mem unstarred, partOf, literal.plain, if_neg Bool.false_ne_true]

theorem named_ne_anyDepth (name : String) : PatternPart.named name ≠ .anyDepth :=
  nofun

/-- In a directory, of all paths that the search looks up that of the first ending is the longest. -/
theorem Reachable.room (reachable : Reachable t d id) (there : t.look d = some .directory) {way : List String}
    (names : ∀ name ∈ way, ProperName name) (inside : t.look ⟨false, d.parts ++ way⟩ = some .directory) :
    (Path.text ⟨false, d.parts ++ way⟩).utf8ByteSize ≤ longestPath ∧ ∀ ending ∈ endings,
      (Path.text ⟨false, d.parts ++ way ++ [id ++ ending]⟩).utf8ByteSize ≤ longestPath := by
  have room := reachable.below there way names inside
  have added : ".json".utf8ByteSize = 5 := rfl
  rw [Path.size_text_concat, String.utf8ByteSize_append, added] at room
  constructor
  · split at room
    · rename_i top
      rw [top]
      decide
    · omega
  · intro ending mem
    have least := (plain_ending mem).2.2.2
    rw [Path.size_text_concat, String.utf8ByteSize_append]
    omega

theorem findsFirst_elsewhere (nothing : findFile t d id = .ok none) (there : t.look d ≠ some .directory) :
    FindsFirst t d id := by
  refine ⟨⟨none, nothing⟩, ⟨fun _ => .inl there, fun _ => nothing⟩, fun p => ⟨fun found => ?_, ?_⟩, ?_⟩
  · cases nothing.symm.trans found
  · exact fun first => absurd first.1 there
  · intro p found
    cases nothing.symm.trans found

/-- An answer that is the first of all files of the name is the only one. -/
theorem findsFirst_of_answer {answer : Option Path} (done : findFile t d id = .ok answer)
    (there : t.look d = some .directory) (nobody : answer = none → ∀ p, ¬ Named t d id p)
    (first : ∀ p, answer = some p → Named t d id p ∧ ∀ q, Named t d id q → Precedes p q) :
    FindsFirst t d id := by
  have only (found : Option Path) : findFile t d id = .ok found ↔ answer = found := by
    rw [done, Except.ok.injEq]
  refine ⟨⟨answer, done⟩, ?_, fun p => ?_, fun p same => ?_⟩
  · rw [only]
    refine ⟨fun nothing => .inr (nobody nothing), ?_⟩
    rintro (elsewhere | none)
    · exact absurd there elsewhere
    · cases answer with
      | none => rfl
      | some p => exact absurd (first p rfl).1 (none p)
  · rw [only]
    refine ⟨fun same => ⟨there, first p same⟩, ?_⟩
    rintro ⟨-, mem, least⟩
    cases answer with
    | none => exact absurd mem (nobody rfl p)
    | some q =>
      obtain ⟨mem', least'⟩ := first q rfl
      rw [mem'.eq_of_precedes mem (least' p mem) (least q mem')]
  · exact loadable (first p ((only p).mp same)).1.suffix

section Proper
variable (proper : t.Proper) (literal : Literal id)
include proper literal

/-- What the search finds is all files of the name. -/
theorem mem_candidates_iff (short : id.utf8ByteSize ≤ 250) (there : t.look d = some .directory)
    {found : List Path} (gathered : candidates t d id = .ok found) {p : Path} :
    p ∈ found ↔ Named t d id p := by
  obtain ⟨directory, leads, -⟩ := resolve_of_look there
  constructor
  · have own : Own id := own_of_plain literal.filled literal.plain short
    exact named_of_candidates literal.whole own proper leads gathered
  · intro named
    obtain ⟨way, place, names, parts, leads', inside⟩ := named.way
    obtain ⟨pattern, xs, read, searched, kept⟩ := searched_of_candidates gathered named.suffix
    cases (literal.pattern named.suffix).symm.trans read
    refine kept p ((mem_filesBelow leads (named_ne_anyDepth _) searched).mpr ?_)
    have here : t.look ⟨false, d.parts ++ way⟩ = some .directory :=
      look_directory_iff.mpr ⟨place, leads', inside⟩
    exact ⟨way, below_of_leads names leads leads' inside, place, here, leads', _, List.mem_singleton_self _,
      parts, named.file⟩

theorem candidates_ok (closed : t.Closed) (reachable : Reachable t d id) (there : t.look d = some .directory) :
    ∃ found, candidates t d id = .ok found := by
  obtain ⟨directory, leads, inside⟩ := look_directory_iff.mp (look_parts there)
  refine map_succeeds_iff.mpr (mapM_succeeds_iff.mpr fun ending mem => ?_)
  rw [literal.pattern mem]
  refine (filesBelow_succeeds_iff leads _).mpr fun way below => ?_
  obtain ⟨leads', within⟩ := closed.leads_below proper inside below
  have here : t.look ⟨false, d.parts ++ way⟩ = some .directory := by
    refine look_directory_iff.mpr ⟨_, ?_, within⟩
    rw [resolve_append, leads]
    exact leads'
  obtain ⟨short, shorter⟩ := reachable.room there (proper.directoriesBelow below) here
  have names := proper.short_of_directory here
  refine (selectAt_part_succeeds_iff (named_ne_anyDepth _)).mpr ⟨not_meetsLongName short names, ?_⟩
  intro _ place _ name tried
  rw [List.mem_singleton.mp tried]
  refine not_meetsLongName (shorter ending mem) fun other inside => ?_
  rcases List.mem_append.mp inside with before | last
  · exact names other before
  · have least := (plain_ending mem).2.2.2
    have most := reachable.name there
    have limit : longestName = 255 := rfl
    rw [List.mem_singleton.mp last, String.utf8ByteSize_append]
    omega

/-- Where the search comes to an answer, it has looked up the first ending of the name in every directory. -/
theorem json_fits {answer : Option Path} (done : findFile t d id = .ok answer)
    (directory : t.meetsLongName d = false) (there : t.look d = some .directory) {way : List String}
    (names : ∀ name ∈ way, ProperName name) (here : t.look ⟨false, d.parts ++ way⟩ = some .directory) :
    (Path.text ⟨false, d.parts ++ way ++ [id ++ ".json"]⟩).utf8ByteSize ≤ longestPath ∧
      (id ++ ".json").utf8ByteSize ≤ longestName := by
  have mem : ".json" ∈ endings := List.mem_cons_self
  obtain ⟨base, leads, -⟩ := resolve_of_look there
  rw [findFile_of_directory ((find_eq_look directory).trans (congrArg _ there))] at done
  obtain ⟨found, gathered, -⟩ := bind_ok_iff.mp done
  obtain ⟨pattern, xs, read, searched, -⟩ := searched_of_candidates gathered mem
  cases (literal.pattern mem).symm.trans read
  obtain ⟨place, leads', inside⟩ := look_directory_iff.mp here
  have fine := looked_of_filesBelow leads (named_ne_anyDepth _) searched
    (below_of_leads names leads leads' inside) here leads' (List.mem_singleton_self _)
  have readable : '\x00' ∉ (id ++ ".json").toList := by
    rw [String.toList_append, List.mem_append, not_or]
    exact ⟨literal.readable, by decide⟩
  have fits := proper.meetsLongName_concat_iff here readable
  rw [fine] at fits
  obtain ⟨shorter, short⟩ := not_or.mp (fits.not.mp Bool.false_ne_true)
  exact ⟨Nat.not_lt.mp shorter, Nat.not_lt.mp short⟩

/-- An answer means that the search has looked up no path that is too long. -/
theorem reachable_of_findFile {answer : Option Path} (done : findFile t d id = .ok answer) :
    Reachable t d id := by
  obtain ⟨e, looked, -⟩ := bind_ok_iff.mp done
  have directory := find_ok_iff.mp ⟨e, looked⟩
  refine ⟨directory, fun there => ?_, fun there way names here => ?_⟩
  · have top : t.look ⟨false, d.parts ++ []⟩ = some .directory := by
      rw [List.append_nil]
      exact look_parts there
    have short := (json_fits proper literal done directory there (List.forall_mem_nil _) top).2
    have limit : longestName = 255 := rfl
    have added : ".json".utf8ByteSize = 5 := rfl
    rw [String.utf8ByteSize_append] at short
    omega
  · exact (json_fits proper literal done directory there names here).1

theorem findFile_of_reachable (closed : t.Closed) (reachable : Reachable t d id) :
    ∃ answer, findFile t d id = .ok answer := by
  have looked := find_eq_look reachable.directory
  by_cases there : t.look d = some .directory
  · obtain ⟨found, gathered⟩ := candidates_ok proper literal closed reachable there
    have named := fun p => mem_candidates_iff proper literal (reachable.name there) there gathered (p := p)
    obtain ⟨answer, chosen⟩ := preferred_ok_iff.mpr fun p mem => ((named p).mp mem).suffix
    rw [there] at looked
    rw [findFile_of_directory looked, gathered]
    exact ⟨answer, chosen⟩
  · exact ⟨none, findFile_elsewhere looked there id⟩

/-- What the search answers is the first of all files of the name. -/
theorem findsFirst_of_reachable (closed : t.Closed) (reachable : Reachable t d id) : FindsFirst t d id := by
  obtain ⟨answer, done⟩ := findFile_of_reachable proper literal closed reachable
  have looked := find_eq_look reachable.directory
  by_cases there : t.look d = some .directory
  · rw [there] at looked
    obtain ⟨found, gathered, chosen⟩ := bind_ok_iff.mp ((findFile_of_directory looked id).symm.trans done)
    have named (p : Path) : p ∈ found ↔ Named t d id p :=
      mem_candidates_iff proper literal (reachable.name there) there gathered
    have ended : ∀ p ∈ found, p.suffix ∈ endings := fun p mem => ((named p).mp mem).suffix
    obtain ⟨one, empty⟩ := mem_of_preferred chosen
    refine findsFirst_of_answer done there (fun nothing p mem => ?_) fun p same => ⟨?_, fun q mem => ?_⟩
    · cases empty nothing ▸ (named p).mpr mem
    · exact (named p).mp (one p same)
    · exact precedes_of_preferred ended (same ▸ chosen) q ((named q).mpr mem)
  · exact findsFirst_elsewhere (findFile_elsewhere looked there id) there

end Proper

theorem Named.transfer {t' : FileTree} (same : ∀ p, t'.look p = t.look p) {p : Path} :
    Named t' d id p ↔ Named t d id p :=
  ⟨fun named => ⟨same p ▸ named.file, named.inside, named.stem, named.suffix⟩,
    fun named => ⟨(same p).symm ▸ named.file, named.inside, named.stem, named.suffix⟩⟩

theorem Reachable.transfer {t' : FileTree} (same : ∀ p, t'.look p = t.look p) (reachable : Reachable t d id) :
    Reachable t' d id := by
  refine ⟨(meetsLongName_congr same d).trans reachable.directory, ?_, ?_⟩
  · rw [same]
    exact reachable.name
  · simp only [same]
    exact reachable.below

/-- The answer of a search does not depend on the order in which a tree lists what is in it. -/
theorem findFile_transfer {t' : FileTree} (proper : t.Proper) (closed : t.Closed) (proper' : t'.Proper)
    (closed' : t'.Closed) (literal : Literal id) (same : ∀ p, t'.look p = t.look p) {answer : Option Path}
    (done : findFile t d id = .ok answer) : findFile t' d id = .ok answer := by
  have reachable := reachable_of_findFile proper literal done
  have first := findsFirst_of_reachable proper literal closed reachable
  have first' := findsFirst_of_reachable proper' literal closed' (reachable.transfer same)
  cases answer with
  | none =>
    have nothing := first.none_iff.mp done
    simp only [first'.none_iff, same, Named.transfer same]
    exact nothing
  | some p =>
    have best := (first.some_iff p).mp done
    simp only [first'.some_iff, same, Named.transfer same]
    exact best

end Search

/-- In every tree a name that stands for itself finds the first of all files of that name, by ending and path,
or nothing where there is no such file, exactly if no path that is looked up for it is too long. The answer is
the same however the tree lists what is in it. -/
theorem finds_first_iff {t : FileTree} (proper : t.Proper) (closed : t.Closed) (d : Path) {id : String}
    (literal : Literal id) : (FindsFirst t d id ↔ Reachable t d id) ∧
    ∀ t' : FileTree, t'.Proper → t'.Closed → (∀ p, t'.look p = t.look p) →
      ∀ answer, findFile t' d id = .ok answer ↔ findFile t d id = .ok answer := by
  constructor
  · refine ⟨fun first => ?_, findsFirst_of_reachable proper literal closed⟩
    obtain ⟨answer, done⟩ := first.answers
    exact reachable_of_findFile proper literal done
  · intro t' proper' closed' same answer
    exact ⟨findFile_transfer proper' closed' proper closed literal fun p => (same p).symm,
      findFile_transfer proper closed proper' closed' literal same⟩

/-- Several definitions of one name, and a directory that is called like one. -/
def pantry : FileTree :=
  ((((({} : FileTree).addDirectory ⟨false, ["queries", "a", "tea.json"]⟩).addFile
    ⟨false, ["queries", "tea.yml"]⟩ []).addFile ⟨false, ["queries", "b", "tea.yaml"]⟩ []).addFile
    ⟨false, ["queries", "z", "tea.json"]⟩ []).addFile ⟨false, ["queries", "y", "tea.json"]⟩ []

theorem pantry_reachable : Reachable pantry home "tea" := by
  refine ⟨not_meetsLongName (by decide) (by decide), fun _ => by decide, fun _ way names there => ?_⟩
  obtain ⟨place, leads, inside⟩ := look_directory_iff.mp there
  have below : way ∈ pantry.directoriesBelow ["queries"] := below_of_leads names rfl leads inside
  have short : ∀ way ∈ pantry.directoriesBelow ["queries"],
      (Path.text ⟨false, home.parts ++ way ++ ["tea.json"]⟩).utf8ByteSize ≤ longestPath := by decide
  exact short way below

theorem finds_first_in_pantry : pantry.Proper ∧ pantry.Closed ∧ Literal "tea" ∧ FindsFirst pantry home "tea" ∧
    findFile pantry home "tea" = .ok (some ⟨false, ["queries", "y", "tea.json"]⟩) := by
  have proper : pantry.Proper := by
    unfold FileTree.Proper
    decide
  have empty : FileTree.Closed {} := fun _ mem => nomatch mem
  have closed : pantry.Closed :=
    ((((empty.addDirectory _).addFile _ _).addFile _ _).addFile _ _).addFile _ _
  have literal : Literal "tea" := ⟨by decide, by decide, by decide, rfl⟩
  have first := (finds_first_iff proper closed home literal).1.mpr pantry_reachable
  refine ⟨proper, closed, literal, first, (first.some_iff _).mpr ⟨rfl, ?_, fun q named => ?_⟩⟩
  · exact ⟨⟨[], rfl⟩, ⟨["y", "tea.json"], by decide, by decide, rfl⟩, by decide, by decide⟩
  · obtain ⟨bytes, file⟩ := named.file
    obtain ⟨way, -, names, rfl⟩ := named.inside
    have on : ∀ name ∈ home.parts ++ way, name ≠ ".." := by
      refine List.forall_mem_append.mpr ⟨by decide, fun name mem => (names name mem).moves.2⟩
    have each : ∀ parts ∈ pantry.files.map (·.1),
        Precedes ⟨false, ["queries", "y", "tea.json"]⟩ ⟨false, parts⟩ := by decide
    exact each _ (mem_files_of_look on file)

section Attic

/-- A directory with one file of a name, with the shortest ending. -/
def attic (id : String) : FileTree :=
  ({} : FileTree).addFile ⟨false, ["queries", id ++ ".yml"]⟩ []

theorem attic_proper {id : String} (proper : ProperName (id ++ ".yml")) : (attic id).Proper := by
  intro parts mem
  have one : parts = [] ∨ parts = ["queries"] ∨ parts = ["queries", id ++ ".yml"] := by
    simpa [attic, addFile, above, everything, Table.put, Table.putBy, List.range_succ] using mem
  have shelf : ProperName "queries" := by decide
  rcases one with rfl | rfl | rfl
  · intro name inside
    cases inside
  · exact List.forall_mem_singleton.mpr shelf
  · exact List.forall_mem_cons.mpr ⟨shelf, List.forall_mem_singleton.mpr proper⟩

theorem look_attic {id : String} (on : id ++ ".yml" ≠ "..") :
    (attic id).look ⟨false, ["queries", id ++ ".yml"]⟩ = some (.file []) := by
  simp [look, resolve, attic, addFile, above, FileTree.isDirectory, at?, Table.put, Table.putBy, Table.get?, on,
    List.range_succ]

/-- A name that only the shortest ending leaves room for is not found even where the file is. -/
theorem not_found_of_long {id : String} (literal : Literal id) (long : 250 < id.utf8ByteSize)
    (proper : ProperName (id ++ ".yml")) : (attic id).Closed ∧
      Named (attic id) home id ⟨false, ["queries", id ++ ".yml"]⟩ ∧
      ∀ answer, findFile (attic id) home id ≠ .ok answer := by
  have mem : ".yml" ∈ endings := by decide
  have empty : FileTree.Closed {} := fun _ mem => nomatch mem
  have closed : (attic id).Closed := empty.addFile _ _
  have last : Path.name ⟨false, ["queries", id ++ ".yml"]⟩ = id ++ ".yml" := rfl
  obtain ⟨stem, suffix⟩ := stem_of_name literal.filled mem last
  refine ⟨closed, ⟨⟨[], look_attic (append_ne_dots id mem)⟩, ⟨[id ++ ".yml"], List.cons_ne_nil _ _,
    List.forall_mem_singleton.mpr proper, rfl⟩, stem, by rw [suffix]; exact mem⟩, fun answer done => ?_⟩
  have reachable := reachable_of_findFile (attic_proper proper) literal done
  have there : (attic id).look home = some .directory := rfl
  exact absurd (reachable.name there) (Nat.not_le.mpr long)

theorem Literal.proper {id ending : String} (literal : Literal id) (mem : ending ∈ endings)
    (short : (id ++ ending).utf8ByteSize ≤ longestName) : ProperName (id ++ ending) := by
  have known : ∀ ending ∈ endings, 4 ≤ ending.utf8ByteSize ∧ '\x00' ∉ ending.toList := by decide
  obtain ⟨least, readable⟩ := known ending mem
  have longer (other : String) (less : other.utf8ByteSize < 4) : id ++ ending ≠ other := by
    rintro rfl
    rw [String.utf8ByteSize_append] at less
    omega
  refine ⟨longer "" (by decide), ⟨longer "." (by decide), longer ".." (by decide)⟩, ?_, ?_, short⟩
  · rw [String.toList_append, List.mem_append, not_or]
    exact ⟨literal.whole, (plain_ending mem).1⟩
  · rw [String.toList_append, List.mem_append, not_or]
    exact ⟨literal.readable, readable⟩

theorem literal_replicate {n : Nat} (some : n ≠ 0) : Literal (String.ofList (List.replicate n 'a')) := by
  have only : ∀ c ∈ (String.ofList (List.replicate n 'a')).toList, c = 'a' := by
    rw [String.toList_ofList]
    exact fun c => List.eq_of_mem_replicate
  refine ⟨by simpa using some, fun mem => absurd (only _ mem) (by decide),
    fun mem => absurd (only _ mem) (by decide), List.any_eq_false.mpr fun c mem => ?_⟩
  rw [only c mem]
  decide

def longName : String :=
  String.ofList (List.replicate 251 'a')

theorem long_name_not_found : Literal longName ∧ (attic longName).Proper ∧ (attic longName).Closed ∧
    Named (attic longName) home longName ⟨false, ["queries", longName ++ ".yml"]⟩ ∧
    ∀ answer, findFile (attic longName) home longName ≠ .ok answer := by
  have size : longName.utf8ByteSize = 251 := by decide +kernel
  have literal : Literal longName := literal_replicate (by decide)
  have short : (longName ++ ".yml").utf8ByteSize ≤ longestName := by
    rw [String.utf8ByteSize_append, size]
    decide
  have proper := literal.proper (by decide) short
  exact ⟨literal, attic_proper proper, not_found_of_long literal (by omega) proper⟩

end Attic

end PageHarvest.Query
