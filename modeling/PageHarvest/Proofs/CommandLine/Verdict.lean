import PageHarvest.Proofs.CommandLine.Console
import PageHarvest.Proofs.Files.Search
import PageHarvest.Proofs.Json.Writer
import PageHarvest.Proofs.Query.Loading
import PageHarvest.Proofs.Service.Answer
import PageHarvest.Proofs.Static.Tripping

/-!
How a command line ends that replays a file on static pages: with records, with a line that says why there
are none, or with a failure that it does not tell of. On a console that refuses a text it ends there.
-/
namespace PageHarvest

namespace Settings

theorem badValue_number (vs : Variables) (name : String) (missing : Int) :
    FailsWith (fun f => f.cause.isBadValue = true) (number vs name missing) := by
  unfold number
  repeat' split
  all_goals first | exact .ok _ | exact .error rfl

theorem badValue_defaults (vs : Variables) :
    FailsWith (fun f => f.cause.isBadValue = true) (defaults vs) :=
  (badValue_number vs _ _).bind fun _ => (badValue_number vs _ _).bind fun _ =>
    (badValue_number vs _ _).bind fun _ => .ok _

theorem badValue_variablesOf (file : Option (List UInt8)) (environment process : Table String String) :
    FailsWith (fun f => f.cause.isBadValue = true) (variablesOf file environment process) := by
  cases file with
  | none => exact .ok _
  | some bytes =>
    refine FailsWith.bind ?_ fun text => .ok _
    unfold textOf
    split
    · exact .ok _
    · exact .error rfl

end Settings

theorem badValue_threshold (name : String) :
    FailsWith (fun f => f.cause.isBadValue = true) (threshold name) := by
  unfold threshold
  split
  · exact .ok _
  · exact .error rfl

namespace CommandLine

/-- An ending whose last line says why there are no records. -/
inductive Ending.Tells : Ending → Prop where
  | error (texts message) : Tells ⟨texts, .told message⟩
  | failed (texts f) : Tells ⟨texts ++ [failedLine f], .returned 1⟩

theorem Ending.Tells.exit {e : Ending} (tells : e.Tells) : e.exit = .ok 1 := by
  cases tells <;> rfl

namespace Console

/-- A failure is told if it is an unusable value or one of the transport. -/
theorem tells_close {f : Failure} (kind : f.cause.isBadValue = true ∨ f.cause.isTransport = true)
    (texts : List String) : Ending.Tells ⟨texts, all.close f⟩ := by
  obtain ⟨message, told⟩ : ∃ message, errorMessage? f = some message := by
    unfold errorMessage?
    by_cases value : f.cause.isBadValue = true
    · exact ⟨_, if_pos value⟩
    · rw [if_neg value, if_pos (kind.resolve_left value)]
      exact ⟨_, rfl⟩
  unfold close
  rw [told]
  exact .error texts message

theorem close_untold {f : Failure} (value : f.cause.isBadValue = false)
    (transport : f.cause.isTransport = false) (c : Console) : c.close f = .raised f := by
  unfold close errorMessage?
  rw [value, transport]
  rfl

end Console

/-- The arguments ask for a replay of a file on static pages. -/
def AsksFor (args : List String) (file : String) : Prop :=
  file ≠ "" ∧ ∃ name given id headed, Program.queries.read (completed args) = .command name given ∧
    Task.ofGiven name given = .replay ⟨file, id⟩ false headed

theorem Word.ofText?_plain {text : String} (plain : text.toList.head? ≠ some '-') (switches : List Switch) :
    Word.ofText? switches text = some (.argument text) := by
  have first : (text.toList.head? != some '-') = true := by simpa using plain
  unfold ofText?
  simp only [first, Bool.true_or, if_true]

theorem Word.ofTexts?_plain {text : String} (plain : text.toList.head? ≠ some '-') (switches : List Switch)
    (rest : List String) : Word.ofTexts? switches (text :: rest) =
      (Word.ofTexts? switches rest).map (.argument text :: ·) := by
  have single : (text == "--") = false := by
    rw [beq_eq_false_iff_ne]
    rintro rfl
    exact plain rfl
  rw [ofTexts?, single, ofText?_plain plain]
  cases ofTexts? switches rest <;> rfl

/-- A file alone asks for its replay on static pages, unless it looks like a switch or is called like a
command. -/
theorem asksFor_file {file : String} (named : file ≠ "") (plain : file.toList.head? ≠ some '-')
    (other : ∀ c ∈ Program.queries.commands, c.name ≠ file) : AsksFor [file] file := by
  have whole : completed [file] = ["run", "--query-file", file] := by
    have first : (file.toList.head? == some '-') = false := by simpa using plain
    have absent : (Program.queries.commands.any (·.name == file)) = false := by
      simpa using other
    unfold completed
    simp only [first, absent, Bool.or_self, Bool.false_eq_true, if_false]
  have word (switches : List Switch) : Word.ofTexts? switches [file] = some [.argument file] := by
    rw [Word.ofTexts?_plain plain]
    rfl
  have words : Word.ofTexts? [.forHelp] ["run", "--query-file", file] =
      some [.argument "run", .unknown, .argument file] := by
    have unknown : Word.ofText? [.forHelp] "--query-file" = some .unknown := rfl
    rw [Word.ofTexts?_plain (by decide), Word.ofTexts?, word, unknown]
    rfl
  refine ⟨named, "run", [("--query-file", file)], "", false, ?_, ?_⟩
  · rw [whole]
    unfold Program.read
    rw [words]
    have switch : Word.ofText? replayCommand.allSwitches "--query-file" =
        some (.switch queryFile "--query-file" none) := rfl
    have inner : Word.ofTexts? replayCommand.allSwitches ["--query-file", file] =
        some [.switch queryFile "--query-file" none, .argument file] := by
      rw [Word.ofTexts?, word, switch]
      rfl
    have reading : replayCommand.read ["--query-file", file] = .values [("--query-file", file)] false := by
      unfold Command.read
      rw [inner]
      rfl
    show Program.readWords _ [(.argument "run", "run"), (.unknown, "--query-file"), (.argument file, file)]
      false = _
    unfold Program.readWords
    have found : Program.queries.commands.find? (·.name == "run") = some replayCommand := rfl
    rw [found]
    dsimp only [List.map]
    rw [reading]
    rfl
  · rfl

section
variable [Stack]

namespace Console

theorem ending_untold {f : Failure} (untold : f.Untold) (texts : List String) :
    all.ending ((all.printOutcome (.error f)).runOn texts) = ⟨texts, .raised f⟩ := by
  unfold printOutcome
  dsimp only
  rw [untold.query]
  exact congrArg (Ending.mk texts) (close_untold untold.badValue untold.transport all)

theorem ending_tells {f : Failure} (told : ¬ f.Untold) (texts : List String) :
    (all.ending ((all.printOutcome (.error f)).runOn texts)).Tells := by
  unfold printOutcome
  dsimp only
  by_cases query : f.cause.isQueryError = true
  · rw [query]
    exact .failed texts f
  · rw [Bool.eq_false_iff.mpr query]
    refine tells_close ?_ texts
    by_contra kind
    obtain ⟨value, transport⟩ := not_or.mp kind
    exact told ⟨Bool.eq_false_iff.mpr query, Bool.eq_false_iff.mpr value, Bool.eq_false_iff.mpr transport⟩

theorem ending_records {records : List Record} {text : String}
    (written : Json.indented (.list (records.map Fields.value)) = .ok text) (texts : List String) :
    all.ending ((all.printOutcome (.ok records)).runOn texts) = ⟨texts ++ [text ++ "\n"], .returned 0⟩ := by
  unfold printOutcome printValue
  dsimp only
  rw [written]
  rfl

end Console

/-- There is room for records of texts, whatever they are. -/
theorem exists_indented (results : List Service.Texts) : ∃ text,
    Json.indented (.list ((results.map Service.asRecord).map Fields.value)) = .ok text := by
  have room := Stack.two_le_written
  refine (Json.write_ok_iff _ _ 0).mpr (Json.writable_list_iff.mpr ⟨by omega, fun v mem => ?_⟩)
  obtain ⟨record, listed, rfl⟩ := List.mem_map.mp mem
  obtain ⟨texts, -, rfl⟩ := List.mem_map.mp listed
  refine Json.writable_map_iff.mpr ⟨by omega, fun e mem => ?_⟩
  obtain ⟨entry, inside, rfl⟩ := List.mem_map.mp mem
  obtain ⟨⟨name, text⟩, -, rfl⟩ := List.mem_map.mp inside
  cases text with
  | none => exact ⟨.text name, .null⟩
  | some text => exact ⟨.text name, .text text⟩

/-- Settings and a query that have been read. -/
structure Ready (t : FileTree) (vs : Except Failure Settings.Variables) (file : String)
    (p : Prepared Callback) : Prop where
  settings : ∃ known least, vs = .ok known ∧ threshold (Settings.logLevel known) = .ok least ∧
    Settings.defaults known = .ok p.defaults
  loaded : Query.load t (Path.ofText file) = .ok p.query

/-- What a command line fails with and does not tell of: a fault of the file that is no unusable value, or
one of the replay that callers do not tell apart. -/
inductive Silent (t : FileTree) (vs : Except Failure Settings.Variables) (file : String) (b : Backend)
    (own : Bool) (id : String) (w : StaticWorld) (f : Failure) : Prop where
  | file {known least format} (settings : vs = .ok known)
      (level : threshold (Settings.logLevel known) = .ok least)
      (named : FileFormat.ofPath (Path.ofText file) = .ok format)
      (fault : Query.FileFault Callback t (Path.ofText file) format f)
      (untold : f.cause.isBadValue = false)
  | replay {p} (ready : Ready t vs file p) (lapses : StaticWorld.Lapses b own p.defaults p.query id w f)

section Session
variable {t : FileTree} {file : String} {b : Backend} {own : Bool} {runId : String} {w : StaticWorld}
  {args : List String} {vs : Except Failure Settings.Variables}

theorem Source.query_of_file (named : file ≠ "") (id : String) : (⟨file, id⟩ : Source).query t =
    ((Query.load t (Path.ofText file)).mapError fun f =>
      if f.cause.isConstruction then Cause.badValue ("Failed to load query: " ++ f.message) else f :
      Except Failure (Query Callback)) := by
  have found : (⟨file, id⟩ : Source).path t = .ok (Path.ofText file) := by
    have filled : (!file.isEmpty) = true := by simpa using named
    unfold path
    dsimp only
    rw [if_pos filled]
    rfl
  unfold query
  rw [found]
  dsimp only [bind, Except.bind]

section Stages
variable (c : Console) {name : String} {given : Values}
  (asked : Program.queries.read (completed args) = .command name given)
include asked

omit [Stack] in
theorem start_unset {f : Failure}
    (unset : vs.bind (fun vs => threshold (Settings.logLevel vs)) = .error f) :
    start c args vs = .over ⟨[], c.close f⟩ := by
  unfold start
  rw [asked]
  dsimp only
  rw [unset]

omit [Stack] in
theorem start_replay {least : Nat} {source : Source} {headed : Bool}
    (leveled : vs.bind (fun vs => threshold (Settings.logLevel vs)) = .ok least)
    (task : Task.ofGiven name given = .replay source false headed) :
    start c args vs = .replay least source false headed := by
  unfold start
  rw [asked]
  dsimp only
  rw [leveled]
  dsimp only
  rw [task]

end Stages

/-- What a replay on pages prints, from the announcement of its query on. -/
def printing (b : Backend) (own : Bool) (runId : String) (w : StaticWorld) (t : FileTree)
    (known : Settings.Variables) (source : Source) (c : Console) : Printing Nat :=
  prepare c t known source >>= fun p =>
    c.printOutcome ((p.replay (StaticWorld.hostVia b) (StaticWorld.newPage own) runId).runOn w).1

theorem session_started (b : Backend) (own : Bool) (runId : String) (w : StaticWorld) (t : FileTree)
    {c : Console} {least : Nat} {source : Source} {headed : Bool}
    (started : start c args vs = .replay least source false headed) : ∃ v,
    (session (Outside.ofPages (StaticWorld.hostVia b) (StaticWorld.newPage own) runId t) c args vs).run w =
        (c.ending ((printing b own runId w t (vs.toOption.getD []) source c).runOn []), v) ∧
      (∀ f texts, (prepare c t (vs.toOption.getD []) source : Printing (Prepared Callback)).runOn [] =
        (.error f, texts) → v = w) ∧
      ∀ p texts, (prepare c t (vs.toOption.getD []) source : Printing (Prepared Callback)).runOn [] =
        (.ok p, texts) →
        v = ((p.replay (StaticWorld.hostVia b) (StaticWorld.newPage own) runId).runOn w).2 := by
  unfold session printing
  rw [started, Act.runOn_bind]
  simp only [Outside.ofPages, pure_bind]
  rcases (prepare c t (vs.toOption.getD []) source : Printing (Prepared Callback)).runOn [] with ⟨_ | p, texts⟩
  · refine ⟨w, rfl, fun _ _ _ => rfl, ?_⟩
    rintro p texts ⟨⟩
  · refine ⟨_, rfl, ?_, ?_⟩
    · rintro f texts ⟨⟩
    · rintro p texts ⟨⟩
      rfl

omit [Stack] in
theorem level_of_known {known : Settings.Variables} {least : Nat} (settings : vs = .ok known)
    (level : threshold (Settings.logLevel known) = .ok least) :
    vs.bind (fun vs => threshold (Settings.logLevel vs)) = .ok least := by
  rw [settings, Except.bind, level]

theorem prepare_all (t : FileTree) (file id : String) (known : Settings.Variables) :
    (prepare Console.all t known ⟨file, id⟩ : Printing (Prepared Callback)).runOn [] =
      match (⟨file, id⟩ : Source).query t with
      | .error f => (.error f, [])
      | .ok q => ((Settings.defaults known).map (Prepared.mk q), announcement q) := by
  unfold prepare
  rw [Act.runOn_bind, Act.runOn_ofExcept]
  cases ((⟨file, id⟩ : Source).query t : Except Failure (Query Callback)) with
  | error f => rfl
  | ok q => cases Settings.defaults known <;> rfl

theorem prepare_of_ready (named : file ≠ "") (id : String) {known : Settings.Variables}
    (defaults : Settings.defaults known = .ok p.defaults)
    (loaded : Query.load t (Path.ofText file) = .ok p.query) :
    (prepare Console.all t known ⟨file, id⟩ : Printing (Prepared Callback)).runOn [] =
      (.ok p, announcement p.query) := by
  rw [prepare_all, Source.query_of_file named, loaded]
  dsimp only [Except.mapError]
  rw [defaults]
  rfl

theorem session_of_ready (asks : AsksFor args file) {p : Prepared Callback} (ready : Ready t vs file p)
    {out : Except Failure (List Record)} {v : StaticWorld}
    (run : (p.replay (StaticWorld.hostVia b) (StaticWorld.newPage own) runId).runOn w = (out, v)) :
    (session (Outside.ofPages (StaticWorld.hostVia b) (StaticWorld.newPage own) runId t) .all args vs).run w =
      (Console.all.ending ((Console.all.printOutcome out).runOn (announcement p.query)), v) := by
  obtain ⟨named, name, given, id, headed, asked, task⟩ := asks
  obtain ⟨known, least, settings, level, defaults⟩ := ready.settings
  have present : vs.toOption.getD [] = known := by
    rw [settings]
    rfl
  obtain ⟨v', session, -, replayed⟩ := session_started b own runId w t
    (start_replay .all asked (level_of_known settings level) task)
  rw [present] at session replayed
  have prepared := prepare_of_ready named id defaults ready.loaded
  rw [session, replayed _ _ prepared, run, printing, Act.runOn_bind, prepared]
  dsimp only
  rw [run]

theorem Ready.unique {p p' : Prepared Callback} (ready : Ready t vs file p) (ready' : Ready t vs file p') :
    p = p' := by
  obtain ⟨known, -, same, -, defaults⟩ := ready.settings
  obtain ⟨known', -, same', -, defaults'⟩ := ready'.settings
  cases same.symm.trans same'
  cases p
  cases p'
  cases defaults.symm.trans defaults'
  cases ready.loaded.symm.trans ready'.loaded
  rfl

/-- An ending with exit status 0, one that tells, or one that is silent, each for its reason. -/
structure Concludes (t : FileTree) (vs : Except Failure Settings.Variables) (file : String) (b : Backend)
    (own : Bool) (runId : String) (w : StaticWorld) (e : Ending) (v : StaticWorld) : Prop where
  silent_iff : ∀ f, e.exit = .error f ↔ Silent t vs file b own runId w f
  success_iff : e.exit = .ok 0 ↔ ∃ p rows, Ready t vs file p ∧
    (p.replay (StaticWorld.hostVia b) (StaticWorld.newPage own) runId).runOn w = (.ok rows, v)
  printed : ∀ p rows, Ready t vs file p →
    (p.replay (StaticWorld.hostVia b) (StaticWorld.newPage own) runId).runOn w = (.ok rows, v) →
    ∃ text, Json.indented (.list (rows.map Fields.value)) = .ok text ∧
      e.texts = announcement p.query ++ [text ++ "\n"]
  tells : ∀ n, e.exit = .ok n → n = 0 ∨ n = 1 ∧ e.Tells

/-- An ending that tells is the right one where no other is. -/
theorem Concludes.of_tells {e : Ending} {v : StaticWorld} (tells : e.Tells)
    (loud : ∀ f, ¬ Silent t vs file b own runId w f)
    (failed : ∀ p rows, Ready t vs file p →
      (p.replay (StaticWorld.hostVia b) (StaticWorld.newPage own) runId).runOn w ≠ (.ok rows, v)) :
    Concludes t vs file b own runId w e v where
  silent_iff f := by
    rw [tells.exit]
    exact ⟨nofun, fun silent => absurd silent (loud f)⟩
  success_iff := by
    rw [tells.exit]
    exact ⟨nofun, fun ⟨p, rows, ready, run⟩ => absurd run (failed p rows ready)⟩
  printed p rows ready run := absurd run (failed p rows ready)
  tells n exit := by
    cases tells.exit.symm.trans exit
    exact .inr ⟨rfl, tells⟩

/-- An ending that is silent is the right one where nothing else is. -/
theorem Concludes.of_raised {texts : List String} {f : Failure} {v : StaticWorld}
    (silent_iff : ∀ f', Silent t vs file b own runId w f' ↔ f' = f)
    (failed : ∀ p rows, Ready t vs file p →
      (p.replay (StaticWorld.hostVia b) (StaticWorld.newPage own) runId).runOn w ≠ (.ok rows, v)) :
    Concludes t vs file b own runId w ⟨texts, .raised f⟩ v where
  silent_iff f' := by
    rw [silent_iff]
    constructor
    · rintro ⟨⟩
      rfl
    · rintro rfl
      rfl
  success_iff := ⟨nofun, fun ⟨p, rows, ready, run⟩ => absurd run (failed p rows ready)⟩
  printed p rows ready run := absurd run (failed p rows ready)
  tells := nofun

theorem Silent.settings {f : Failure} (silent : Silent t vs file b own runId w f) :
    ∃ known least, vs = .ok known ∧ threshold (Settings.logLevel known) = .ok least := by
  cases silent with
  | file settings level => exact ⟨_, _, settings, level⟩
  | replay ready =>
    obtain ⟨known, least, settings, level, -⟩ := ready.settings
    exact ⟨known, least, settings, level⟩

/-- A query that is not loaded is silent at a fault of its file only. -/
theorem Silent.of_unloaded {f f' : Failure} (silent : Silent t vs file b own runId w f')
    (unloaded : (Query.load t (Path.ofText file) : Except Failure (Query Callback)) = .error f) :
    f' = f ∧ f.cause.isConstruction = false ∧ f.cause.isBadValue = false := by
  cases silent with
  | file _ _ named fault untold =>
    obtain ⟨failed, other⟩ := (Query.escapes_load_iff t (Path.ofText file) f').mpr ⟨_, named, fault⟩
    cases failed.symm.trans unloaded
    exact ⟨rfl, other, untold⟩
  | replay ready => cases ready.loaded.symm.trans unloaded

variable {v : StaticWorld}

theorem concludes_unset {f : Failure} (value : f.cause.isBadValue = true)
    (unset : vs.bind (fun vs => threshold (Settings.logLevel vs)) = .error f) :
    Concludes t vs file b own runId w ⟨[], Console.all.close f⟩ v := by
  have set {known : Settings.Variables} {least : Nat} (settings : vs = .ok known)
      (level : threshold (Settings.logLevel known) = .ok least) : False := by
    rw [settings, Except.bind, level] at unset
    cases unset
  refine .of_tells (Console.tells_close (.inl value) _) (fun f silent => ?_) (fun p rows ready => ?_)
  · obtain ⟨known, least, settings, level⟩ := silent.settings
    exact set settings level
  · obtain ⟨known, least, settings, level, -⟩ := ready.settings
    exact (set settings level).elim

variable {known : Settings.Variables} (settings : vs = .ok known)
include settings

theorem concludes_unloaded {least : Nat} (level : threshold (Settings.logLevel known) = .ok least)
    {f : Failure} (unloaded : (Query.load t (Path.ofText file) : Except Failure (Query Callback)) = .error f) :
    Concludes t vs file b own runId w ⟨[], Console.all.close (if f.cause.isConstruction then
      Cause.badValue ("Failed to load query: " ++ f.message) else f)⟩ v := by
  have failed (p : Prepared Callback) (rows : List Record) (ready : Ready t vs file p) :
      (p.replay (StaticWorld.hostVia b) (StaticWorld.newPage own) runId).runOn w ≠ (.ok rows, v) := by
    cases ready.loaded.symm.trans unloaded
  by_cases construction : f.cause.isConstruction = true
  · rw [if_pos construction]
    refine .of_tells (Console.tells_close (.inl rfl) _) (fun f' silent => ?_) failed
    obtain ⟨-, other, -⟩ := silent.of_unloaded unloaded
    rw [construction] at other
    cases other
  · rw [if_neg construction]
    obtain ⟨format, named, fault⟩ := (Query.escapes_load_iff t (Path.ofText file) f).mp
      ⟨unloaded, Bool.eq_false_iff.mpr construction⟩
    by_cases value : f.cause.isBadValue = true
    · refine .of_tells (Console.tells_close (.inl value) _) (fun f' silent => ?_) failed
      obtain ⟨-, -, untold⟩ := silent.of_unloaded unloaded
      rw [value] at untold
      cases untold
    · have untold := Bool.eq_false_iff.mpr value
      rw [Console.close_untold untold fault.not_transport]
      refine .of_raised (fun f' => ⟨fun silent => (silent.of_unloaded unloaded).1, ?_⟩) failed
      rintro rfl
      exact .file settings level named fault untold

theorem concludes_unprepared {q : Query Callback} (loaded : Query.load t (Path.ofText file) = .ok q)
    {f : Failure} (unset : Settings.defaults known = .error f) :
    Concludes t vs file b own runId w ⟨announcement q, Console.all.close f⟩ v := by
  have value := Settings.badValue_defaults known f unset
  have unready (p : Prepared Callback) (ready : Ready t vs file p) : False := by
    obtain ⟨known', -, settings', -, defaults⟩ := ready.settings
    cases settings.symm.trans settings'
    cases defaults.symm.trans unset
  refine .of_tells (Console.tells_close (.inl value) _) (fun f' silent => ?_)
    (fun p rows ready => (unready p ready).elim)
  cases silent with
  | file _ _ named fault =>
    obtain ⟨failed, -⟩ := (Query.escapes_load_iff t (Path.ofText file) f').mpr ⟨_, named, fault⟩
    cases failed.symm.trans loaded
  | replay ready => exact unready _ ready

omit settings in
theorem concludes_prepared (quiet : w.arrivals = []) (on : Precision.Timely w.now) {p : Prepared Callback}
    (uniform : b.Uniform w.site p.defaults.pollIntervalMs p.defaults.pollIntervalMs)
    (ready : Ready t vs file p) {out : Except Failure (List Record)}
    (run : (p.replay (StaticWorld.hostVia b) (StaticWorld.newPage own) runId).runOn w = (out, v)) :
    Concludes t vs file b own runId w
      (Console.all.ending ((Console.all.printOutcome out).runOn (announcement p.query))) v := by
  obtain ⟨m, made⟩ := Query.ofMapping_of_load ready.loaded
  have definable := Query.definable_of_ofMapping made
  have lapses_iff (f : Failure) :
      ((p.replay (StaticWorld.hostVia b) (StaticWorld.newPage own) runId).runOn w).1 = .error f ∧ f.Untold ↔
        StaticWorld.Lapses b own p.defaults p.query runId w f :=
    StaticWorld.replay_lapses_iff quiet on uniform definable runId f
  rw [run] at lapses_iff
  have silent_iff (f : Failure) : Silent t vs file b own runId w f ↔ out = .error f ∧ f.Untold := by
    constructor
    · intro silent
      cases silent with
      | file _ _ named fault =>
        obtain ⟨failed, -⟩ := (Query.escapes_load_iff t (Path.ofText file) f).mpr ⟨_, named, fault⟩
        cases failed.symm.trans ready.loaded
      | replay ready' lapses =>
        cases ready.unique ready'
        exact (lapses_iff f).mpr lapses
    · exact fun failed => .replay ready ((lapses_iff f).mp failed)
  have ran {p' : Prepared Callback} {rows : List Record} (ready' : Ready t vs file p')
      (run' : (p'.replay (StaticWorld.hostVia b) (StaticWorld.newPage own) runId).runOn w = (.ok rows, v)) :
      p' = p ∧ out = .ok rows := by
    cases ready.unique ready'
    cases run.symm.trans run'
    exact ⟨rfl, rfl⟩
  cases out with
  | ok rows =>
    have free (callback : Callback) : .eval callback ∉ p.query.steps := by
      intro mem
      exact (definable _ mem).not_eval callback rfl
    obtain ⟨results, rfl⟩ := Service.texts_of_replay free run
    obtain ⟨text, written⟩ := exists_indented results
    rw [Console.ending_records written]
    refine ⟨fun f => ?_, ⟨fun _ => ⟨p, _, ready, run⟩, fun _ => rfl⟩, fun p' rows' ready' run' => ?_, ?_⟩
    · rw [silent_iff]
      exact ⟨nofun, nofun⟩
    · obtain ⟨rfl, ⟨⟩⟩ := ran ready' run'
      exact ⟨text, written, rfl⟩
    · rintro n ⟨⟩
      exact .inl rfl
  | error f =>
    have failed (p' : Prepared Callback) (rows : List Record) (ready' : Ready t vs file p') :
        (p'.replay (StaticWorld.hostVia b) (StaticWorld.newPage own) runId).runOn w ≠ (.ok rows, v) := by
      intro run'
      cases (ran ready' run').2
    by_cases untold : f.Untold
    · rw [Console.ending_untold untold]
      refine .of_raised (fun f' => ?_) failed
      rw [silent_iff]
      constructor
      · rintro ⟨⟨⟩, -⟩
        rfl
      · rintro rfl
        exact ⟨rfl, untold⟩
    · refine .of_tells (Console.ending_tells untold _) (fun f' silent => ?_) failed
      obtain ⟨⟨⟩, untold'⟩ := (silent_iff f').mp silent
      exact untold untold'

/-- What is printed concludes, with the world as the replay leaves it. -/
theorem concludes_printing {least : Nat} (leveled : threshold (Settings.logLevel known) = .ok least)
    (named : file ≠ "") (id : String) (quiet : w.arrivals = []) (on : Precision.Timely w.now)
    (uniform : ∀ p, Ready t vs file p → b.Uniform w.site p.defaults.pollIntervalMs p.defaults.pollIntervalMs)
    (replayed : ∀ p texts, (prepare Console.all t known ⟨file, id⟩ : Printing (Prepared Callback)).runOn [] =
      (.ok p, texts) → v = ((p.replay (StaticWorld.hostVia b) (StaticWorld.newPage own) runId).runOn w).2) :
    Concludes t vs file b own runId w
      (Console.all.ending ((printing b own runId w t known ⟨file, id⟩ .all).runOn [])) v := by
  have prepared := prepare_all t file id known
  rw [Source.query_of_file named] at prepared
  cases loaded : (Query.load t (Path.ofText file) : Except Failure (Query Callback)) with
  | error f =>
    rw [loaded] at prepared
    rw [printing, Act.runOn_bind, prepared]
    exact concludes_unloaded settings leveled loaded
  | ok q =>
    rw [loaded] at prepared
    dsimp only [Except.mapError] at prepared
    cases defaults : Settings.defaults known with
    | error f =>
      rw [defaults] at prepared
      rw [printing, Act.runOn_bind, prepared]
      exact concludes_unprepared settings loaded defaults
    | ok d =>
      have ready : Ready t vs file ⟨q, d⟩ := ⟨⟨known, least, settings, leveled, defaults⟩, loaded⟩
      rw [defaults] at prepared
      rw [printing, Act.runOn_bind, prepared, replayed _ _ prepared]
      exact concludes_prepared quiet on (uniform _ ready) ready Prod.mk.eta.symm

end Session

end

/-! A page with one paragraph -/

/-- A tree with one file, which says by its name that it is JSON. -/
def holding (definition : String) : FileTree :=
  ({} : FileTree).addFile (Path.ofText "q.json") (definition.toList.map fun c => c.toNat.toUInt8)

def paragraphWorld : StaticWorld :=
  { site := [("http://a/", { markup := "<p>1</p>" })], start := 0, now := 0 }

/-- Settings under which few events are shown. -/
def quietly : Except Failure Settings.Variables :=
  Settings.variablesOf none [("PAGEQUERY_LOG_LEVEL", "CRITICAL")] []

/-- The query that a definition comes to in a file. -/
def queryOf (definition : String) : Except Failure (Query Callback) := do
  let text ← textOf (definition.toList.map fun c => c.toNat.toUInt8)
  match ← FileFormat.json.read (Path.ofText "q.json") text with
  | .map m => Query.ofMapping m
  | _ => .error Cause.noOperation

theorem ready_of_queryOf {definition : String} {q : Query Callback} (made : queryOf definition = .ok q) :
    Ready (holding definition) quietly "q.json" ⟨q, {}⟩ := by
  refine ⟨⟨_, 50, rfl, rfl, rfl⟩, ?_⟩
  have found : (holding definition).find (Path.ofText "q.json") =
      .ok (some (.file (definition.toList.map fun c => c.toNat.toUInt8))) :=
    FileTree.find_of_short (by decide) (by decide)
  have named : FileFormat.ofPath (Path.ofText "q.json") = .ok .json := rfl
  obtain ⟨text, decoded, made⟩ := bind_ok_iff.mp made
  obtain ⟨v, read, made⟩ := bind_ok_iff.mp made
  cases v with
  | map m =>
    unfold Query.load Query.ofFile
    rw [named]
    dsimp only [bind, Except.bind]
    rw [found]
    dsimp only
    rw [decoded]
    dsimp only
    rw [read]
    exact made
  | _ => cases made

/-- Scripted pages by a clock that counts nanoseconds up to 63 bits. -/
def counting : Backend :=
  { Backend.scripted with longestSleep := some ((2 ^ 63 - 1) / 10 ^ 9) }

theorem counting_uniform {site : Site} (timely : Backend.scripted.Timely site) : counting.Uniform site 50 50 := by
  have short : ((Precision.double.seconds (max 50 1)).toOption.any counting.clock.refuses) = false := by
    decide +kernel
  have paces : counting.clock.Paces 50 := by
    intro interval told
    have told : Precision.double.seconds (max 50 1) = .ok interval := told
    rw [told] at short
    exact short
  exact ⟨⟨Css.engine_readsPromptly, paces, paces⟩, timely, Css.engine_picksBelow, Css.engine_ignoresNumbers⟩

/-- How the replay of a definition is to end. -/
def endingOf (definition : String) : Except Failure Ending := do
  let q ← queryOf definition
  let p : Prepared Callback := ⟨q, {}⟩
  let outcome := (p.replay (StaticWorld.hostVia counting) (StaticWorld.newPage true) "1").runOn paragraphWorld
  return Console.all.ending ((Console.all.printOutcome outcome.1).runOn (announcement q))

theorem asksFor_definition : AsksFor ["q.json"] "q.json" :=
  asksFor_file (by decide) (by decide) (by decide)

theorem session_of_endingOf {definition : String} {e : Ending} (ends : endingOf definition = .ok e) :
    ∃ v, (session (Outside.ofPages (StaticWorld.hostVia counting) (StaticWorld.newPage true) "1"
      (holding definition)) .all ["q.json"] quietly).run paragraphWorld = (e, v) := by
  obtain ⟨q, made, done⟩ := bind_ok_iff.mp ends
  cases done
  exact ⟨_, session_of_ready asksFor_definition (ready_of_queryOf made) (Prod.mk.eta).symm⟩

def selectParagraph : String :=
  "\x7b\"url\": \"http://a/\", \"steps\": [\x7b\"select\": \x7b\"t\": \"p\"\x7d\x7d]\x7d"

/-- A grouping by a selector whose bracket is not closed. -/
def groupOpenBracket : String :=
  "\x7b\"url\": \"http://a/\", \"steps\": [\x7b\"group_by\": \"p[\"\x7d, " ++
    "\x7b\"select\": \x7b\"t\": \"p\"\x7d\x7d]\x7d"

/-- Whether an ending is that of a failure by the name. -/
def Ending.failsAs (name : String) (e : Ending) : Bool :=
  match e.exit with
  | .error f => f.name == name
  | .ok _ => false

end CommandLine
end PageHarvest
