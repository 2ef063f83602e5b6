import Mathlib.Data.List.Induction
import PageHarvest.Files.Search
import PageHarvest.Proofs.Failure

/-!
What a search of a file tree comes to. A pattern of one part selects, in a directory and in every directory
below it, the names that the part stands for; nothing on the way is looked up in vain as long as no name and
no path is too long.
-/
namespace PageHarvest

/-- What a file or a directory can be called. -/
structure ProperName (name : String) : Prop where
  filled : name ≠ ""
  moves : name ≠ "." ∧ name ≠ ".."
  whole : '/' ∉ name.toList
  readable : '\x00' ∉ name.toList
  short : name.utf8ByteSize ≤ FileTree.longestName

instance (name : String) : Decidable (ProperName name) :=
  decidable_of_iff (name ≠ "" ∧ (name ≠ "." ∧ name ≠ "..") ∧ '/' ∉ name.toList ∧ '\x00' ∉ name.toList ∧
      name.utf8ByteSize ≤ FileTree.longestName)
    ⟨fun ⟨filled, moves, whole, readable, short⟩ => ⟨filled, moves, whole, readable, short⟩,
      fun ⟨filled, moves, whole, readable, short⟩ => ⟨filled, moves, whole, readable, short⟩⟩

namespace Path

theorem text_concat (parts : List String) (name : String) :
    text ⟨false, parts ++ [name]⟩ = if parts = [] then name else text ⟨false, parts⟩ ++ "/" ++ name := by
  by_cases none : parts = []
  · subst none
    simp [text]
  · have joined := String.intercalate_append_of_ne_nil (s := "/") none (List.cons_ne_nil name [])
    simp [text, none, joined]

theorem size_text_concat (parts : List String) (name : String) :
    (text ⟨false, parts ++ [name]⟩).utf8ByteSize =
      (if parts = [] then 0 else (text ⟨false, parts⟩).utf8ByteSize + 1) + name.utf8ByteSize := by
  rw [text_concat]
  split
  · exact (Nat.zero_add _).symm
  · rw [String.utf8ByteSize_append, String.utf8ByteSize_append]
    rfl

theorem size_text_concat_le (parts : List String) (name : String) :
    (text ⟨false, parts ++ [name]⟩).utf8ByteSize ≤
      (text ⟨false, parts⟩).utf8ByteSize + 1 + name.utf8ByteSize := by
  rw [size_text_concat]
  split <;> omega

theorem contains_text_concat {parts : List String} {name : String} {c : Char} (mem : c ∈ name.toList) :
    (text ⟨false, parts ++ [name]⟩).contains c := by
  rw [text_concat, String.contains_char_eq, decide_eq_true_eq]
  split
  · exact mem
  · simp [mem]

theorem readable_text {parts : List String} (readable : ∀ name ∈ parts, '\x00' ∉ name.toList) :
    (text ⟨false, parts⟩).contains '\x00' = false := by
  rw [String.contains_char_eq, decide_eq_false_iff_not]
  induction parts using List.reverseRecOn with
  | nil => decide
  | append_singleton before name ih =>
    obtain ⟨others, last⟩ := List.forall_mem_append.mp readable
    have here := last name (List.mem_singleton_self name)
    rw [text_concat]
    split
    · exact here
    · simp [ih others, here]

/-- A name without its ending. -/
def stem (p : Path) : String :=
  String.ofList (p.name.toList.take (p.name.toList.length - p.suffix.toList.length))

theorem suffixOf_suffix (name : String) : (suffixOf name).toList <:+ name.toList := by
  unfold suffixOf
  dsimp only
  split
  · exact List.nil_suffix
  · rename_i inner
    simp only [Bool.or_eq_true, decide_eq_true_eq, not_or, Nat.not_le, List.length_reverse] at inner
    generalize name.toList = cs at inner ⊢
    have split : cs.reverse.takeWhile (· != '.') ++ cs.reverse.dropWhile (· != '.') = cs.reverse :=
      List.takeWhile_append_dropWhile
    -- read backwards, the name goes on with a dot where the tail ends
    cases rest : cs.reverse.dropWhile (· != '.') with
    | nil =>
      have length := congrArg List.length split
      rw [rest, List.append_nil, List.length_reverse] at length
      omega
    | cons c others =>
      have dot : c = '.' := by
        have stops := List.head_dropWhile_not (· != '.') (l := cs.reverse) (by simp [rest])
        simpa [rest] using stops
      refine ⟨others.reverse, ?_⟩
      rw [rest, dot] at split
      have whole := congrArg List.reverse split
      rw [List.reverse_append, List.reverse_cons, List.append_assoc, List.reverse_reverse] at whole
      rw [String.toList_ofList]
      exact whole

theorem stem_append_suffix (p : Path) : p.stem ++ p.suffix = p.name := by
  obtain ⟨before, whole⟩ : p.suffix.toList <:+ p.name.toList := suffixOf_suffix p.name
  have kept : p.name.toList.length - p.suffix.toList.length = before.length := by
    rw [← whole, List.length_append, Nat.add_sub_cancel]
  rw [← String.toList_inj, String.toList_append, stem, String.toList_ofList, kept, ← whole, List.take_left]

end Path

namespace FileTree

/-- Everything in a tree has a proper path. -/
def Proper (t : FileTree) : Prop :=
  ∀ parts ∈ t.everything, ∀ name ∈ parts, ProperName name

/-- A path behind a directory is not too long, at any depth below it. -/
structure Roomy (t : FileTree) (d : Path) : Prop where
  names : ∀ name ∈ d.parts, name.utf8ByteSize ≤ longestName
  short : d.text.utf8ByteSize ≤ longestPath
  below : ∀ here, t.resolve [] d.parts = some here → ∀ way ∈ t.directoriesBelow here,
    (Path.text ⟨false, d.parts ++ way⟩).utf8ByteSize + 1 + longestName ≤ longestPath

variable {t : FileTree}

theorem find_ok_iff {p : Path} : (∃ e, t.find p = .ok e) ↔ t.meetsLongName p = false := by
  unfold find
  cases t.meetsLongName p with
  | true => simp
  | false => simp

theorem find_eq_look {p : Path} (fine : t.meetsLongName p = false) : t.find p = .ok (t.look p) := by
  unfold find
  rw [fine]
  rfl

theorem not_meetsLongName {p : Path} (short : p.text.utf8ByteSize ≤ longestPath)
    (names : ∀ name ∈ p.parts, name.utf8ByteSize ≤ longestName) : t.meetsLongName p = false := by
  unfold meetsLongName
  rw [Bool.and_eq_false_iff, Bool.or_eq_false_iff]
  refine .inr ⟨decide_eq_false (Nat.not_lt.mpr short), List.any_eq_false.mpr ?_⟩
  rintro ⟨name, n⟩ mem
  have within := names name (List.fst_mem_of_mem_zipIdx mem)
  simp [Nat.not_lt.mpr within]

theorem find_of_short {p : Path} (short : p.text.utf8ByteSize ≤ longestPath)
    (names : ∀ name ∈ p.parts, name.utf8ByteSize ≤ longestName) : t.find p = .ok (t.look p) :=
  find_eq_look (not_meetsLongName short names)

/-- A path with a null character is not looked up at all. -/
theorem not_meetsLongName_of_null {p : Path} (null : p.text.contains '\x00') : t.meetsLongName p = false := by
  unfold meetsLongName
  rw [null]
  rfl

theorem look_of_find {p : Path} {e : Option FileEntry} (found : t.find p = .ok e) : t.look p = e := by
  unfold find at found
  split at found
  · cases found
  · cases found
    rfl

theorem Proper.directoriesBelow (proper : t.Proper) {directory way : List String}
    (mem : way ∈ t.directoriesBelow directory) : ∀ name ∈ way, ProperName name := by
  rcases List.mem_cons.mp mem with rfl | mem
  · exact nofun
  · obtain ⟨d, here, rfl⟩ := List.mem_map.mp (List.mem_eraseDups.mp mem)
    have there : d ∈ t.everything :=
      List.mem_eraseDups.mpr (List.mem_append_left _ (List.mem_filter.mp here).1)
    exact fun name inside => proper d there name (List.mem_of_mem_drop inside)

theorem Proper.namesIn (proper : t.Proper) {directory : List String} {name : String}
    (mem : name ∈ t.namesIn directory) : ProperName name := by
  obtain ⟨parts, there, last⟩ := List.mem_filterMap.mp mem
  split at last
  · exact proper parts there name (List.mem_of_getLast? last)
  · cases last

/-- Names that a part of a pattern stands for in a directory. -/
def tried (t : FileTree) (directory : List String) : PatternPart → List String
  | .anyDepth => []
  | .named name => [name]
  | .shaped signs => (t.namesIn directory).filter fun name => Wildcard.fits signs name.toList

/-- The ways that a part of a pattern leads from a directory. -/
def ways (t : FileTree) (directory : List String) : PatternPart → List (List String)
  | .anyDepth => t.directoriesBelow directory
  | part => (t.tried directory part).map ([·])

/-- What the rest of a pattern selects from a path. -/
def selectAt (t : FileTree) (rest : List PatternPart) (there : List String) :
    Except Failure (List (List String)) := do
  match ← t.find ⟨false, there⟩ with
  | some .directory => t.selectFrom rest there
  | some (.file _) => return if rest.isEmpty then [there] else []
  | none => return []

section Steps
variable {here directory : List String} (leads : t.resolve [] here = some directory)
include leads

theorem selectFrom_cons (part : PatternPart) (rest : List PatternPart) : t.selectFrom (part :: rest) here =
    ((t.ways directory part).mapM fun way => t.selectAt rest (here ++ way)).map List.flatten := by
  rw [selectFrom, leads]
  cases part <;> rfl

theorem selectFrom_anyDepth (rest : List PatternPart) : t.selectFrom (.anyDepth :: rest) here =
    ((t.directoriesBelow directory).mapM fun way => t.selectAt rest (here ++ way)).map List.flatten :=
  selectFrom_cons leads .anyDepth rest

theorem selectFrom_part {part : PatternPart} (deep : part ≠ .anyDepth) : t.selectFrom [part] here =
    ((t.tried directory part).mapM fun name => t.selectAt [] (here ++ [name])).map List.flatten := by
  rw [selectFrom_cons leads, ways, List.mapM_map]
  · rfl
  · exact deep

end Steps

theorem selectAt_nil {there : List String} {e : Option FileEntry} (found : t.find ⟨false, there⟩ = .ok e) :
    t.selectAt [] there = .ok (if e.isSome then [there] else []) := by
  unfold selectAt
  rw [found]
  cases e with
  | none => rfl
  | some entry => cases entry <;> rfl

theorem mem_flatten_of_mapM {ι α : Type} {g : ι → Except Failure (List α)} {is : List ι} {found : List α}
    (done : (is.mapM g).map List.flatten = .ok found) {x : α} :
    x ∈ found ↔ ∃ i ∈ is, ∃ xs, g i = .ok xs ∧ x ∈ xs := by
  obtain ⟨all, made, rfl⟩ := map_ok_iff.mp done
  obtain ⟨given, taken⟩ := ok_of_mapM made
  rw [List.mem_flatten]
  constructor
  · rintro ⟨xs, mem, inside⟩
    obtain ⟨i, there, same⟩ := taken xs mem
    exact ⟨i, there, xs, same, inside⟩
  · rintro ⟨i, there, xs, same, inside⟩
    obtain ⟨xs', mem, same'⟩ := given i there
    cases same.symm.trans same'
    exact ⟨xs, mem, inside⟩

/-- What a last part of a pattern selects in a directory: what is there under the names that it stands for. -/
theorem mem_selectFrom_part {here directory : List String} (leads : t.resolve [] here = some directory)
    {part : PatternPart} (deep : part ≠ .anyDepth) {found : List (List String)}
    (done : t.selectFrom [part] here = .ok found) {there : List String} :
    there ∈ found ↔ ∃ name ∈ t.tried directory part, there = here ++ [name] ∧
      (t.look ⟨false, there⟩).isSome := by
  rw [selectFrom_part leads deep] at done
  obtain ⟨all, made, -⟩ := map_ok_iff.mp done
  have answers (name : String) (mem : name ∈ t.tried directory part) :
      t.selectAt [] (here ++ [name]) =
        .ok (if (t.look ⟨false, here ++ [name]⟩).isSome then [here ++ [name]] else []) := by
    obtain ⟨xs, -, same⟩ := (ok_of_mapM made).1 name mem
    obtain ⟨e, found, -⟩ := bind_ok_iff.mp same
    rw [look_of_find found]
    exact selectAt_nil found
  rw [mem_flatten_of_mapM done]
  constructor
  · rintro ⟨name, mem, xs, same, inside⟩
    cases (answers name mem).symm.trans same
    split at inside
    · cases List.mem_singleton.mp inside
      exact ⟨name, mem, rfl, by assumption⟩
    · cases inside
  · rintro ⟨name, mem, rfl, there⟩
    refine ⟨name, mem, _, answers name mem, ?_⟩
    rw [if_pos there]
    exact List.mem_singleton_self _

theorem resolve_append (here before after : List String) : t.resolve here (before ++ after) =
    (t.resolve here before).bind fun there => t.resolve there after := by
  induction before generalizing here with
  | nil => rfl
  | cons part rest ih =>
    rw [List.cons_append, resolve, resolve]
    split
    · exact ih _
    · rfl

theorem resolve_cons_of_ne {name : String} (on : name ≠ "..") (here rest : List String) :
    t.resolve here (name :: rest) = if t.isDirectory here then t.resolve (here ++ [name]) rest else none := by
  have forward : (name == "..") = false := beq_eq_false_iff_ne.mpr on
  rw [resolve, forward]
  rfl

/-- A path ends in the directory that it comes through last. -/
theorem resolve_concat {here way place : List String} {name : String}
    (leads : t.resolve here (way ++ [name]) = some place) : ∃ directory, t.resolve here way = some directory ∧
      t.isDirectory directory = true ∧ (name ≠ ".." → place = directory ++ [name]) := by
  rw [resolve_append] at leads
  obtain ⟨directory, before, leads⟩ := Option.bind_eq_some_iff.mp leads
  rw [resolve] at leads
  split at leads
  · rename_i inside
    refine ⟨directory, before, inside, fun on => ?_⟩
    rw [if_neg (by simpa using on)] at leads
    exact (Option.some.inj leads).symm
  · cases leads

theorem resolve_of_look {p : Path} {e : FileEntry} (there : t.look p = some e) :
    ∃ place, t.resolve [] p.parts = some place ∧ t.at? place = some e := by
  unfold look at there
  split at there
  · cases there
  · exact Option.bind_eq_some_iff.mp there

theorem resolve_eq_append {here way place : List String} (on : ∀ name ∈ way, name ≠ "..")
    (leads : t.resolve here way = some place) : place = here ++ way := by
  induction way generalizing here with
  | nil =>
    rw [List.append_nil]
    exact (Option.some.inj leads).symm
  | cons name rest ih =>
    obtain ⟨forward, on⟩ := List.forall_mem_cons.mp on
    rw [resolve_cons_of_ne forward] at leads
    split at leads
    · rw [ih on leads, List.append_assoc, List.singleton_append]
    · cases leads

theorem mem_files_of_at? {place : List String} {bytes : List UInt8} (there : t.at? place = some (.file bytes)) :
    place ∈ t.files.map (·.1) := by
  unfold at? at there
  split at there
  · cases there
  · obtain ⟨_, entry, -⟩ := Option.map_eq_some_iff.mp there
    obtain ⟨e, found, -⟩ := Option.map_eq_some_iff.mp entry
    have key : e.1 = place := by simpa using List.find?_some found
    exact List.mem_map.mpr ⟨e, List.mem_of_find?_eq_some found, key⟩

/-- A path without dots to a file is where the tree has that file. -/
theorem mem_files_of_look {parts : List String} (on : ∀ name ∈ parts, name ≠ "..") {bytes : List UInt8}
    (there : t.look ⟨false, parts⟩ = some (.file bytes)) : parts ∈ t.files.map (·.1) := by
  obtain ⟨place, leads, here⟩ := resolve_of_look there
  have same := resolve_eq_append on leads
  rw [List.nil_append] at same
  exact same ▸ mem_files_of_at? here

/-- A file is found under a proper name only. -/
theorem Proper.of_look (proper : t.Proper) {parts : List String} {name : String} (on : name ≠ "..")
    {bytes : List UInt8} (there : t.look ⟨false, parts ++ [name]⟩ = some (.file bytes)) : ProperName name := by
  obtain ⟨place, leads, here⟩ := resolve_of_look there
  obtain ⟨directory, -, -, forward⟩ := resolve_concat leads
  have known : place ∈ t.everything :=
    List.mem_eraseDups.mpr (List.mem_append_right _ (mem_files_of_at? here))
  exact proper place known name (by simp [forward on])

/-- Parts of a pattern lead on from directories only. -/
theorem mem_selectAt_part {part : PatternPart} (deep : part ≠ .anyDepth) {here : List String}
    {found : List (List String)} (done : t.selectAt [part] here = .ok found) {there : List String} :
    there ∈ found ↔ ∃ directory, t.look ⟨false, here⟩ = some .directory ∧
      t.resolve [] here = some directory ∧ ∃ name ∈ t.tried directory part, there = here ++ [name] ∧
        (t.look ⟨false, there⟩).isSome := by
  obtain ⟨e, looked, done⟩ := bind_ok_iff.mp done
  rw [look_of_find looked]
  cases e with
  | none =>
    cases done
    simp
  | some e =>
    cases e with
    | file bytes =>
      cases done
      simp
    | directory =>
      obtain ⟨directory, leads, -⟩ := resolve_of_look (look_of_find looked)
      rw [mem_selectFrom_part leads deep done]
      simp [leads]

/-- Of what a pattern selects the files are kept. -/
theorem selectFrom_of_filesBelow {d : Path} {pattern : List PatternPart} {found : List Path}
    (done : t.filesBelow d pattern = .ok found) : ∃ ways, t.selectFrom (.anyDepth :: pattern) d.parts = .ok ways ∧
      ∀ p, p ∈ found ↔ (∃ parts ∈ ways, ⟨false, parts⟩ = p) ∧ ∃ bytes, t.look p = some (.file bytes) := by
  obtain ⟨ways, selected, same⟩ := bind_ok_iff.mp done
  refine ⟨ways, selected, fun p => ?_⟩
  cases same
  simp only [List.mem_filter, List.mem_map, List.mem_eraseDups]
  refine and_congr_right fun _ => ?_
  cases t.look p with
  | none => simp
  | some e => cases e <;> simp

/-- A pattern of one part selects the files of the names that it stands for, in a directory and in every
directory below it. -/
theorem mem_filesBelow {d : Path} {directory : List String} (leads : t.resolve [] d.parts = some directory)
    {part : PatternPart} (deep : part ≠ .anyDepth) {found : List Path}
    (done : t.filesBelow d [part] = .ok found) {p : Path} :
    p ∈ found ↔ ∃ way ∈ t.directoriesBelow directory, ∃ below,
      t.look ⟨false, d.parts ++ way⟩ = some .directory ∧ t.resolve [] (d.parts ++ way) = some below ∧
      ∃ name ∈ t.tried below part, p = ⟨false, d.parts ++ way ++ [name]⟩ ∧
        ∃ bytes, t.look p = some (.file bytes) := by
  obtain ⟨ways, selected, kept⟩ := selectFrom_of_filesBelow done
  rw [selectFrom_anyDepth leads] at selected
  rw [kept]
  constructor
  · rintro ⟨⟨there, mem, rfl⟩, file⟩
    obtain ⟨way, below, xs, went, inside⟩ := (mem_flatten_of_mapM selected).mp mem
    obtain ⟨place, here, leads', name, tried, rfl, -⟩ := (mem_selectAt_part deep went).mp inside
    exact ⟨way, below, place, here, leads', name, tried, rfl, file⟩
  · rintro ⟨way, below, place, here, leads', name, tried, rfl, file⟩
    refine ⟨⟨_, (mem_flatten_of_mapM selected).mpr ⟨way, below, ?_⟩, rfl⟩, file⟩
    obtain ⟨all, made, -⟩ := map_ok_iff.mp selected
    obtain ⟨xs, -, went⟩ := (ok_of_mapM made).1 way below
    obtain ⟨bytes, file⟩ := file
    exact ⟨xs, went, (mem_selectAt_part deep went).mpr ⟨place, here, leads', name, tried, rfl,
      Option.isSome_of_eq_some file⟩⟩

/-- A last part of a pattern selects something from a path, or nothing, if that path can be looked up and the
names that are tried behind it. -/
theorem selectAt_part_succeeds_iff {part : PatternPart} (deep : part ≠ .anyDepth) {here : List String} :
    (∃ found, t.selectAt [part] here = .ok found) ↔ t.meetsLongName ⟨false, here⟩ = false ∧
      (t.look ⟨false, here⟩ = some .directory → ∀ directory, t.resolve [] here = some directory →
        ∀ name ∈ t.tried directory part, t.meetsLongName ⟨false, here ++ [name]⟩ = false) := by
  unfold selectAt
  cases fine : t.meetsLongName ⟨false, here⟩ with
  | true =>
    refine ⟨fun ⟨found, done⟩ => ?_, nofun⟩
    obtain ⟨e, looked, -⟩ := bind_ok_iff.mp done
    rw [find_ok_iff.mp ⟨e, looked⟩] at fine
    cases fine
  | false =>
    rw [find_eq_look fine]
    cases looked : t.look ⟨false, here⟩ with
    | none => exact ⟨fun _ => ⟨rfl, nofun⟩, fun _ => ⟨_, rfl⟩⟩
    | some e =>
      cases e with
      | file bytes => exact ⟨fun _ => ⟨rfl, nofun⟩, fun _ => ⟨_, rfl⟩⟩
      | directory =>
        obtain ⟨directory, leads, -⟩ := resolve_of_look looked
        show (∃ found, t.selectFrom [part] here = .ok found) ↔ _
        have each (name : String) : (∃ xs, t.selectAt [] (here ++ [name]) = .ok xs) ↔
            t.meetsLongName ⟨false, here ++ [name]⟩ = false := by
          rw [← find_ok_iff]
          constructor
          · rintro ⟨xs, done⟩
            obtain ⟨e, found, -⟩ := bind_ok_iff.mp done
            exact ⟨e, found⟩
          · rintro ⟨e, found⟩
            exact ⟨_, selectAt_nil found⟩
        rw [selectFrom_part leads deep, map_succeeds_iff, mapM_succeeds_iff]
        simp only [each, leads, Option.some.injEq, forall_eq', true_and, forall_const]

/-- A search for one part comes to an answer if everything can be looked up that it tries. -/
theorem filesBelow_succeeds_iff {d : Path} {directory : List String}
    (leads : t.resolve [] d.parts = some directory) (part : PatternPart) :
    (∃ found, t.filesBelow d [part] = .ok found) ↔ ∀ way ∈ t.directoriesBelow directory,
      ∃ found, t.selectAt [part] (d.parts ++ way) = .ok found := by
  rw [← mapM_succeeds_iff, ← map_succeeds_iff (g := List.flatten), ← selectFrom_anyDepth leads]
  unfold filesBelow
  cases t.selectFrom [.anyDepth, part] d.parts with
  | error f => exact ⟨nofun, nofun⟩
  | ok ways => exact ⟨fun _ => ⟨_, rfl⟩, fun _ => ⟨_, rfl⟩⟩

/-- A search that comes to an answer has looked up every name that it tried. -/
theorem looked_of_filesBelow {d : Path} {directory : List String}
    (leads : t.resolve [] d.parts = some directory) {part : PatternPart} (deep : part ≠ .anyDepth)
    {found : List Path}
    (done : t.filesBelow d [part] = .ok found) {way : List String} (below : way ∈ t.directoriesBelow directory)
    {place : List String} (here : t.look ⟨false, d.parts ++ way⟩ = some .directory)
    (leads' : t.resolve [] (d.parts ++ way) = some place) {name : String} (mem : name ∈ t.tried place part) :
    t.meetsLongName ⟨false, d.parts ++ way ++ [name]⟩ = false := by
  have went := (filesBelow_succeeds_iff leads part).mp ⟨found, done⟩ way below
  exact ((selectAt_part_succeeds_iff deep).mp went).2 here place leads' name mem

section Room
variable (proper : t.Proper) {d : Path} (roomy : t.Roomy d) {directory : List String}
  (leads : t.resolve [] d.parts = some directory) {way : List String}
  (below : way ∈ t.directoriesBelow directory)
include proper roomy leads below

omit leads in
theorem short_below : ∀ name ∈ d.parts ++ way, name.utf8ByteSize ≤ longestName := by
  intro name mem
  rcases List.mem_append.mp mem with before | after
  · exact roomy.names name before
  · exact (proper.directoriesBelow below name after).short

theorem sound_directory : t.meetsLongName ⟨false, d.parts ++ way⟩ = false := by
  refine not_meetsLongName ?_ (short_below proper roomy below)
  have room := roomy.below directory leads way below
  omega

/-- Below a directory with room, every name can be looked up that is short or none at all. -/
theorem sound_name {name : String} (fine : '\x00' ∈ name.toList ∨ name.utf8ByteSize ≤ longestName) :
    t.meetsLongName ⟨false, d.parts ++ way ++ [name]⟩ = false := by
  rcases fine with null | short
  · exact not_meetsLongName_of_null (Path.contains_text_concat null)
  · have room := roomy.below directory leads way below
    have longer := Path.size_text_concat_le (d.parts ++ way) name
    refine not_meetsLongName (by omega) fun other mem => ?_
    rcases List.mem_append.mp mem with before | last
    · exact short_below proper roomy below other before
    · cases List.mem_singleton.mp last
      exact short

end Room

/-- What is tried for a part can be looked up, if a name that the part asks for can. -/
theorem fine_of_tried (proper : t.Proper) {part : PatternPart} (deep : part ≠ .anyDepth)
    (fine : ∀ name, part = .named name → '\x00' ∈ name.toList ∨ name.utf8ByteSize ≤ longestName)
    {place : List String} {name : String} (mem : name ∈ t.tried place part) :
    '\x00' ∈ name.toList ∨ name.utf8ByteSize ≤ longestName := by
  cases part with
  | anyDepth => exact absurd rfl deep
  | named other =>
    cases List.mem_singleton.mp mem
    exact fine _ rfl
  | shaped signs => exact .inr (proper.namesIn (List.mem_filter.mp mem).1).short

/-- A search for one part comes to an answer where there is room for names. -/
theorem filesBelow_ok (proper : t.Proper) {d : Path} (roomy : t.Roomy d) {directory : List String}
    (leads : t.resolve [] d.parts = some directory) {part : PatternPart} (deep : part ≠ .anyDepth)
    (fine : ∀ name, part = .named name → '\x00' ∈ name.toList ∨ name.utf8ByteSize ≤ longestName) :
    ∃ found, t.filesBelow d [part] = .ok found := by
  rw [filesBelow_succeeds_iff leads]
  intro way below
  refine (selectAt_part_succeeds_iff deep).mpr ⟨sound_directory proper roomy leads below, ?_⟩
  intro _ place _ name mem
  exact sound_name proper roomy leads below (fine_of_tried proper deep fine mem)

section Ways

theorem isDirectory_iff {parts : List String} :
    t.isDirectory parts = true ↔ parts = [] ∨ parts ∈ t.directories := by
  simp [isDirectory]

theorem isDirectory_concat {parts : List String} {name : String} :
    t.isDirectory (parts ++ [name]) = true ↔ parts ++ [name] ∈ t.directories := by
  rw [isDirectory_iff, or_iff_right (by simp)]

theorem look_directory_iff {parts : List String} : t.look ⟨false, parts⟩ = some .directory ↔
    ∃ place, t.resolve [] parts = some place ∧ t.isDirectory place = true := by
  have kind (place : List String) : t.at? place = some .directory ↔ t.isDirectory place = true := by
    unfold at?
    cases t.isDirectory place with
    | true => simp
    | false => simp
  unfold look
  rw [if_neg Bool.false_ne_true, Option.bind_eq_some_iff]
  simp only [kind]

theorem isDirectory_resolved_iff {parts : List String} :
    (t.resolve [] parts).any t.isDirectory = true ↔ t.look ⟨false, parts⟩ = some .directory := by
  rw [look_directory_iff, Option.any_eq_true]

/-- Trees in which the same is found at every path know the same long names. -/
theorem meetsLongName_congr {t' : FileTree} (same : ∀ p, t'.look p = t.look p) (p : Path) :
    t'.meetsLongName p = t.meetsLongName p := by
  have reached (parts : List String) : (t'.resolve [] parts).any t'.isDirectory =
      (t.resolve [] parts).any t.isDirectory := by
    rw [Bool.eq_iff_iff, isDirectory_resolved_iff, isDirectory_resolved_iff, same]
  simp only [meetsLongName, reached]

/-- Every directory is in a directory. -/
def Closed (t : FileTree) : Prop :=
  ∀ parts ∈ t.directories, t.isDirectory parts.dropLast = true

theorem above_eq_take {parts outer : List String} :
    outer ∈ above parts ↔ ∃ n < parts.length, parts.take n = outer := by
  simp [above]

/-- Directories that are put together with all above them leave no gap. -/
theorem Closed.extended (closed : t.Closed) {t' : FileTree} (parts : List String)
    (old : t.directories ⊆ t'.directories) (outer : above parts ⊆ t'.directories)
    (new : ∀ d ∈ t'.directories, d ∈ t.directories ∨ d ∈ above parts ∨ d = parts) : t'.Closed := by
  have within (n : Nat) (most : n ≤ parts.length) : t'.isDirectory (parts.take n).dropLast = true := by
    rw [List.dropLast_eq_take, List.length_take, Nat.min_eq_left most, List.take_take,
      Nat.min_eq_left (Nat.sub_le n 1), isDirectory_iff]
    by_cases first : parts.take (n - 1) = []
    · exact .inl first
    · refine .inr (outer (above_eq_take.mpr ⟨n - 1, ?_, rfl⟩))
      have some : n - 1 ≠ 0 := fun none => first (by rw [none, List.take_zero])
      omega
  intro d mem
  rcases new d mem with known | above | rfl
  · rw [isDirectory_iff]
    exact (isDirectory_iff.mp (closed d known)).imp_right fun before => old before
  · obtain ⟨n, less, rfl⟩ := above_eq_take.mp above
    exact within n (Nat.le_of_lt less)
  · have whole := within d.length (Nat.le_refl _)
    rwa [List.take_length] at whole

theorem Closed.addFile (closed : t.Closed) (p : Path) (bytes : List UInt8) : (t.addFile p bytes).Closed := by
  refine closed.extended p.parts (List.subset_append_left _ _) (List.subset_append_right _ _) fun d mem => ?_
  exact (List.mem_append.mp mem).imp_right .inl

theorem Closed.addDirectory (closed : t.Closed) (p : Path) : (t.addDirectory p).Closed := by
  have old : t.directories ⊆ (t.addDirectory p).directories := fun d mem =>
    List.mem_append_left _ (List.mem_append_left _ mem)
  have outer : above p.parts ⊆ (t.addDirectory p).directories := fun d mem =>
    List.mem_append_left _ (List.mem_append_right _ mem)
  refine closed.extended p.parts old outer fun d mem => ?_
  rcases List.mem_append.mp mem with before | last
  · exact (List.mem_append.mp before).imp_right .inl
  · exact .inr (.inr (List.mem_singleton.mp last))

theorem Closed.isDirectory_of_append (closed : t.Closed) {here way : List String}
    (there : t.isDirectory (here ++ way) = true) : t.isDirectory here = true := by
  induction way using List.reverseRecOn with
  | nil =>
    rw [List.append_nil] at there
    exact there
  | append_singleton way name ih =>
    rw [← List.append_assoc, isDirectory_concat] at there
    have outside := closed _ there
    rw [List.dropLast_concat] at outside
    exact ih outside

theorem Closed.resolve (closed : t.Closed) {here way : List String} (on : ∀ name ∈ way, name ≠ "..")
    (there : t.isDirectory (here ++ way) = true) : t.resolve here way = some (here ++ way) := by
  induction way generalizing here with
  | nil => rw [FileTree.resolve, List.append_nil]
  | cons name rest ih =>
    obtain ⟨forward, on⟩ := List.forall_mem_cons.mp on
    rw [resolve_cons_of_ne forward, if_pos (closed.isDirectory_of_append there)]
    rw [List.append_cons here name rest] at there ⊢
    exact ih on there

/-- Names without dots lead below a directory. -/
theorem mem_directoriesBelow {directory way place : List String} (on : ∀ name ∈ way, name ≠ "..")
    (leads : t.resolve directory way = some place) (there : t.isDirectory place = true) :
    way ∈ t.directoriesBelow directory := by
  rcases List.eq_nil_or_concat' way with rfl | ⟨before, name, rfl⟩
  · exact List.mem_cons_self
  · rw [resolve_eq_append on leads, ← List.append_assoc, isDirectory_concat, List.append_assoc] at there
    refine List.mem_cons_of_mem _ (List.mem_eraseDups.mpr (List.mem_map.mpr ⟨_, List.mem_filter.mpr
      ⟨there, ?_⟩, List.drop_left⟩))
    simp

theorem Closed.leads_below (closed : t.Closed) (proper : t.Proper) {directory way : List String}
    (there : t.isDirectory directory = true) (below : way ∈ t.directoriesBelow directory) :
    t.resolve directory way = some (directory ++ way) ∧ t.isDirectory (directory ++ way) = true := by
  have on : ∀ name ∈ way, name ≠ ".." := fun name mem => (proper.directoriesBelow below name mem).moves.2
  have inside : t.isDirectory (directory ++ way) = true := by
    rcases List.mem_cons.mp below with rfl | below
    · rwa [List.append_nil]
    · obtain ⟨d, mem, rfl⟩ := List.mem_map.mp (List.mem_eraseDups.mp below)
      simp only [List.mem_filter, Bool.and_eq_true, List.isPrefixOf_iff_prefix] at mem
      obtain ⟨known, ⟨rest, rfl⟩, -⟩ := mem
      rw [List.drop_left]
      simp [isDirectory, known]
  exact ⟨closed.resolve on inside, inside⟩

/-- A path to a directory goes back, or on by the name of a directory. -/
theorem Proper.names_of_directory (proper : t.Proper) {parts : List String}
    (there : t.look ⟨false, parts⟩ = some .directory) : ∀ name ∈ parts, name = ".." ∨ ProperName name := by
  induction parts using List.reverseRecOn with
  | nil => exact nofun
  | append_singleton before last ih =>
    obtain ⟨place, leads, there⟩ := look_directory_iff.mp there
    obtain ⟨directory, leads, outside, forward⟩ := resolve_concat leads
    intro name mem
    rcases List.mem_append.mp mem with mem | mem
    · exact ih (look_directory_iff.mpr ⟨directory, leads, outside⟩) name mem
    · rw [List.mem_singleton.mp mem]
      by_cases back : last = ".."
      · exact .inl back
      · rw [forward back, isDirectory_concat] at there
        have known := List.mem_eraseDups.mpr (List.mem_append_left (t.files.map (·.1)) there)
        exact .inr (proper _ known last (by simp))

theorem Proper.short_of_directory (proper : t.Proper) {parts : List String}
    (there : t.look ⟨false, parts⟩ = some .directory) : ∀ name ∈ parts, name.utf8ByteSize ≤ longestName := by
  intro name mem
  rcases proper.names_of_directory there name mem with rfl | proper
  · decide
  · exact proper.short

/-- Behind a directory, only a long name or a long path is in the way. -/
theorem Proper.meetsLongName_concat_iff (proper : t.Proper) {parts : List String}
    (there : t.look ⟨false, parts⟩ = some .directory) {name : String} (readable : '\x00' ∉ name.toList) :
    t.meetsLongName ⟨false, parts ++ [name]⟩ = true ↔
      longestPath < (Path.text ⟨false, parts ++ [name]⟩).utf8ByteSize ∨ longestName < name.utf8ByteSize := by
  have names := proper.names_of_directory there
  obtain ⟨place, leads, inside⟩ := look_directory_iff.mp there
  have clear : (Path.text ⟨false, parts ++ [name]⟩).contains '\x00' = false := by
    refine Path.readable_text fun other mem => ?_
    rcases List.mem_append.mp mem with before | last
    · rcases names other before with rfl | proper
      · decide
      · exact proper.readable
    · cases List.mem_singleton.mp last
      exact readable
  have reached : (t.resolve [] parts).any t.isDirectory = true := by
    rw [leads]
    exact inside
  unfold meetsLongName
  rw [clear, Bool.not_false, Bool.true_and, Bool.or_eq_true, decide_eq_true_eq]
  refine or_congr_right ?_
  rw [List.zipIdx_append, List.any_append, Bool.or_eq_true, List.zipIdx_singleton, List.any_cons, List.any_nil,
    Bool.or_false, Nat.zero_add]
  dsimp only
  rw [List.take_left, reached, Bool.and_true, decide_eq_true_eq]
  refine or_iff_right fun early => ?_
  obtain ⟨e, mem, long⟩ := List.any_eq_true.mp early
  have short := proper.short_of_directory there e.1 (List.fst_mem_of_mem_zipIdx mem)
  exact Nat.not_lt.mpr short (of_decide_eq_true (Bool.and_eq_true_iff.mp long).1)

end Ways

end FileTree
end PageHarvest
