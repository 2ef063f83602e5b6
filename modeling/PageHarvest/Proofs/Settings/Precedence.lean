import PageHarvest.Proofs.Data.Table
import PageHarvest.Proofs.Failure
import PageHarvest.Proofs.Text.Numeral
import PageHarvest.Settings.Environment

/-!
Where a setting comes from. A file of bindings is meant to count before the environment wherever it has a value,
and it does, but for one case: a name that stands in it without a value hides what the environment has.
-/
namespace PageHarvest.Settings

/-- A setting that is a whole number: its name after what all names begin with, and where it is kept. -/
structure Setting where
  name : String
  value : Defaults → Int

namespace Setting

def fullName (s : Setting) : String := shared ++ s.name

/-- What counts when nothing is said. -/
def missing (s : Setting) : Int := s.value {}

/-- What a setting comes to, given the text that its variable has. -/
inductive Reads (s : Setting) : Option String → Except Failure Int → Prop where
  | absent : Reads s none (.ok s.missing)
  | blank {v} (blank : Text.isBlankText v) : Reads s (some v) (.ok s.missing)
  | number {v n} (numeral : Text.Numeral v n) : Reads s (some v) (.ok n)
  | refused {v} (filled : Text.isBlankText v = false) (other : ∀ n, ¬ Text.Numeral v n) :
      Reads s (some v) (.error (Cause.badValue (s.fullName ++ " must be an integer, got " ++ Text.quoted v)))

section
variable {s s' : Setting} {text text' : Option String} {out out' : Except Failure Int} {f : Failure}

theorem Reads.unique (first : s.Reads text out) (second : s.Reads text out') : out = out' := by
  cases first with
  | absent =>
    cases second
    rfl
  | blank blank =>
    cases second with
    | blank => rfl
    | number numeral => exact absurd blank (by simp [numeral.not_blank])
    | refused filled => exact absurd blank (by simp [filled])
  | number numeral =>
    cases second with
    | blank blank => exact absurd blank (by simp [numeral.not_blank])
    | number numeral' => rw [numeral.unique numeral']
    | refused _ other => exact absurd numeral (other _)
  | refused filled other =>
    cases second with
    | blank blank => exact absurd blank (by simp [filled])
    | number numeral => exact absurd numeral (other _)
    | refused => rfl

theorem number_reads (s : Setting) (vs : Variables) :
    s.Reads (vs.get? s.fullName) (number vs s.name s.missing) := by
  rw [number, show shared ++ s.name = s.fullName from rfl]
  cases vs.get? s.fullName with
  | none => exact .absent
  | some v =>
    dsimp only
    split
    · exact .blank ‹_›
    · rename_i filled
      split
      · rename_i read
        exact .number (Text.integer?_eq_some_iff.mp read)
      · rename_i unread
        refine .refused (Bool.not_eq_true _ ▸ filled) fun n numeral => ?_
        rw [Text.integer?_eq_some_iff.mpr numeral] at unread
        cases unread

/-- A refusal names the variable: it is the message up to the first space. -/
theorem Reads.fullName_of_error (reads : s.Reads text (.error f)) (solid : ∀ c ∈ s.fullName.toList, c != ' ') :
    ∃ message, f = Cause.badValue message ∧ message.toList.takeWhile (· != ' ') = s.fullName.toList := by
  cases reads with
  | refused =>
    refine ⟨_, rfl, ?_⟩
    rw [String.append_assoc, String.toList_append, List.takeWhile_append_of_pos solid, String.toList_append]
    exact List.append_nil _

end
end Setting

/-- The settings in the order in which they are read. -/
def settings : List Setting :=
  [⟨"WAIT_TIMEOUT_MS", Defaults.waitTimeoutMs⟩, ⟨"NAVIGATION_TIMEOUT_MS", Defaults.navigationTimeoutMs⟩,
    ⟨"POLL_INTERVAL_MS", Defaults.pollIntervalMs⟩]

/-- The settings are read in order from what `text` says under their names, until one is refused. -/
inductive Resolves (text : String → Option String) : Except Failure Defaults → Prop where
  | returns {d} (each : ∀ s ∈ settings, s.Reads (text s.fullName) (.ok (s.value d))) : Resolves text (.ok d)
  | refuses {i s f} (place : settings[i]? = some s)
      (earlier : ∀ s' ∈ settings.take i, ∃ n, s'.Reads (text s'.fullName) (.ok n))
      (refused : s.Reads (text s.fullName) (.error f)) : Resolves text (.error f)

theorem defaults_resolves (vs : Variables) : Resolves vs.get? (defaults vs) := by
  have first := Setting.number_reads ⟨"WAIT_TIMEOUT_MS", Defaults.waitTimeoutMs⟩ vs
  have second := Setting.number_reads ⟨"NAVIGATION_TIMEOUT_MS", Defaults.navigationTimeoutMs⟩ vs
  have third := Setting.number_reads ⟨"POLL_INTERVAL_MS", Defaults.pollIntervalMs⟩ vs
  dsimp only [Setting.missing] at first second third
  cases done : defaults vs with
  | ok d =>
    obtain ⟨waitMs, wait, done⟩ := bind_ok_iff.mp done
    obtain ⟨navigationMs, navigation, done⟩ := bind_ok_iff.mp done
    obtain ⟨pollMs, poll, done⟩ := bind_ok_iff.mp done
    cases done
    rw [wait] at first
    rw [navigation] at second
    rw [poll] at third
    exact .returns (List.forall_mem_cons.mpr
      ⟨first, List.forall_mem_cons.mpr ⟨second, List.forall_mem_singleton.mpr third⟩⟩)
  | error f =>
    rcases bind_error_iff.mp done with wait | ⟨waitMs, wait, done⟩
    · rw [wait] at first
      exact .refuses (i := 0) rfl nofun first
    rw [wait] at first
    rcases bind_error_iff.mp done with navigation | ⟨navigationMs, navigation, done⟩
    · rw [navigation] at second
      exact .refuses (i := 1) rfl (List.forall_mem_singleton.mpr ⟨_, first⟩) second
    rw [navigation] at second
    rcases bind_error_iff.mp done with poll | ⟨pollMs, poll, done⟩
    · rw [poll] at third
      exact .refuses (i := 2) rfl
        (List.forall_mem_cons.mpr ⟨⟨_, first⟩, List.forall_mem_singleton.mpr ⟨_, second⟩⟩) third
    · cases done

/-- Only what stands under the names that all settings share the beginning of has a say. -/
theorem defaults_congr {vs vs' : Variables}
    (same : ∀ name, vs.get? (shared ++ name) = vs'.get? (shared ++ name)) : defaults vs = defaults vs' := by
  simp only [defaults, number, same]

theorem userAgent_of_defaults {vs : Variables} {d : Defaults} (done : defaults vs = .ok d) :
    d.userAgent = (vs.get? (shared ++ "USER_AGENT")).getD ({} : Defaults).userAgent := by
  obtain ⟨_, _, done⟩ := bind_ok_iff.mp done
  obtain ⟨_, _, done⟩ := bind_ok_iff.mp done
  obtain ⟨_, _, done⟩ := bind_ok_iff.mp done
  cases done
  rfl

section Sources
variable (file : Option Bindings) (environment : Table String String)

/-- The text that a name should have: what the file says, or else what the environment says. -/
def effective? (name : String) : Option String :=
  ((file.getD []).get? name).join.or (environment.get? name)

/-- The name stands in the file without a value. -/
def Bare (name : String) : Prop := (file.getD []).get? name = some none

/-- The text that a name has: the environment is only asked for names that are not in the file. -/
def known? (name : String) : Option String :=
  match (file.getD []).get? name with
  | some v => v
  | none => environment.get? name

/-- What bare names hide would not have made a difference: the settings read for this outcome that are bare in
the file have no text in the environment, or a blank one, or one that comes to the same number; those read before
a setting was refused need only be readable there. -/
def HidesNothing : Except Failure Defaults → Prop
  | .ok _ => ∀ s ∈ settings, Bare file s.fullName → s.Reads (environment.get? s.fullName) (.ok s.missing)
  | .error f => ∀ i s, settings[i]? = some s → s.Reads (known? file environment s.fullName) (.error f) →
      ∀ s' ∈ settings.take i, Bare file s'.fullName → ∃ n, s'.Reads (environment.get? s'.fullName) (.ok n)

variable {file environment} {name : String}

theorem known?_of_bare (bare : Bare file name) : known? file environment name = none := by
  rw [known?, bare]

theorem effective?_of_bare (bare : Bare file name) : effective? file environment name = environment.get? name := by
  rw [effective?, bare]
  rfl

theorem effective?_of_not_bare (valued : ¬ Bare file name) :
    effective? file environment name = known? file environment name := by
  unfold effective? known?
  cases said : (file.getD []).get? name with
  | none => rfl
  | some v =>
    cases v with
    | none => exact absurd said valued
    | some v => rfl

/-- The names of a file that was read are apart. -/
theorem nodup_names_ofText (outer : Table String String) (text : List Char) :
    ((Bindings.ofText outer text).map (·.1)).Nodup := by
  have kept {known : Bindings} (value : Bindings → Option (List Char) → Option String)
      (bindings : List (String × Option (List Char))) (distinct : (known.map (·.1)).Nodup) :
      ((bindings.foldl (fun t b => t.put b.1 (value t b.2)) known).map (·.1)).Nodup := by
    induction bindings generalizing known with
    | nil => exact distinct
    | cons b rest ih => exact ih (Table.nodup_keys_put distinct _ _)
  exact kept _ _ List.nodup_nil

theorem get?_merged (distinct : ((file.getD []).map (·.1)).Nodup) (rest : String) :
    (merged file environment).get? (shared ++ rest) = known? file environment (shared ++ rest) := by
  have keyed : merged file environment =
      (((environment.map fun e => (e.1, some e.2)).foldl (fun t e => t.putNew e.1 e.2)
        (file.getD [])).filterMap fun e =>
          (if shared.toList.isPrefixOf e.1.toList then e.2 else none).map (e.1, ·)) := by
    refine List.filterMap_congr fun e _ => ?_
    dsimp only
    split
    · rfl
    · rfl
  have begins : shared.toList.isPrefixOf (shared ++ rest).toList := by
    rw [String.toList_append, List.isPrefixOf_iff_prefix]
    exact List.prefix_append _ _
  rw [keyed, Table.get?_filterMap (Table.nodup_keys_foldl_putNew distinct _)
    (fun k v => if shared.toList.isPrefixOf k.toList then v else none), Table.get?_foldl_putNew,
    Table.get?_map_values, known?]
  simp only [begins, if_true]
  cases (file.getD []).get? (shared ++ rest) with
  | some v => rfl
  | none => cases environment.get? (shared ++ rest) <;> rfl

/-- The names of the settings are apart, and a refusal tells them apart. -/
theorem place_of_refused {i j : Nat} {s s' : Setting} {text text' : Option String} {f : Failure}
    (here : settings[i]? = some s) (there : settings[j]? = some s') (refused : s.Reads text (.error f))
    (refused' : s'.Reads text' (.error f)) : i = j := by
  have solid : (settings.all fun s => s.fullName.toList.all (· != ' ')) = true := by decide
  have solid (s : Setting) (mem : s ∈ settings) : ∀ c ∈ s.fullName.toList, c != ' ' :=
    List.all_eq_true.mp (List.all_eq_true.mp solid s mem)
  have apart : (settings.map fun s => s.fullName.toList).Nodup := by decide
  obtain ⟨message, told, names⟩ := refused.fullName_of_error (solid s (List.mem_of_getElem? here))
  obtain ⟨message', told', names'⟩ := refused'.fullName_of_error (solid s' (List.mem_of_getElem? there))
  cases told.symm.trans told'
  have placed : (settings.map fun s => s.fullName.toList)[i]? = some s.fullName.toList := by
    rw [List.getElem?_map, here]
    rfl
  refine (List.getElem?_inj (List.getElem?_eq_some_iff.mp placed).1 apart).mp ?_
  rw [placed, List.getElem?_map, there, Option.map_some, ← names, names']

theorem not_bare_of_refused {s : Setting} {f : Failure}
    (refused : s.Reads (known? file environment s.fullName) (.error f)) : ¬ Bare file s.fullName := by
  intro bare
  rw [known?_of_bare bare] at refused
  cases refused

theorem reads_effective_iff {s : Setting} {n : Int} (read : s.Reads (known? file environment s.fullName) (.ok n)) :
    s.Reads (effective? file environment s.fullName) (.ok n) ↔
      (Bare file s.fullName → s.Reads (environment.get? s.fullName) (.ok s.missing)) := by
  by_cases bare : Bare file s.fullName
  · rw [known?_of_bare bare] at read
    cases read
    rw [effective?_of_bare bare]
    exact ⟨fun read _ => read, fun read => read bare⟩
  · rw [effective?_of_not_bare bare]
    exact ⟨fun _ bare' => absurd bare' bare, fun _ => read⟩

theorem readable_effective_iff {s : Setting}
    (readable : ∃ n, s.Reads (known? file environment s.fullName) (.ok n)) :
    (∃ n, s.Reads (effective? file environment s.fullName) (.ok n)) ↔
      (Bare file s.fullName → ∃ n, s.Reads (environment.get? s.fullName) (.ok n)) := by
  by_cases bare : Bare file s.fullName
  · rw [effective?_of_bare bare]
    exact ⟨fun readable _ => readable, fun readable => readable bare⟩
  · rw [effective?_of_not_bare bare]
    exact ⟨fun _ bare' => absurd bare' bare, fun _ => readable⟩

/-- Settings come to what they should exactly when bare names hide nothing that would make a difference. -/
theorem resolves_effective_iff {out : Except Failure Defaults} (known : Resolves (known? file environment) out) :
    Resolves (effective? file environment) out ↔ HidesNothing file environment out := by
  cases known with
  | returns each =>
    constructor
    · intro effective s mem
      cases effective with
      | returns each' => exact (reads_effective_iff (each s mem)).mp (each' s mem)
    · intro harmless
      exact .returns fun s mem => (reads_effective_iff (each s mem)).mpr (harmless s mem)
  | refuses place earlier refused =>
    constructor
    · intro effective i s here refusedHere s' mem
      cases effective with
      | refuses place' earlier' refused' =>
        cases place_of_refused here place refusedHere refused
        cases place_of_refused here place' refusedHere refused'
        exact (readable_effective_iff (earlier s' mem)).mp (earlier' s' mem)
    · intro harmless
      have valued := not_bare_of_refused refused
      refine .refuses place (fun s' mem => ?_) (effective?_of_not_bare valued ▸ refused)
      exact (readable_effective_iff (earlier s' mem)).mpr (harmless _ _ place refused s' mem)

end Sources

section Precedence

/-- Two pairs of sources say the same under a name. -/
def SameAt (file file' : Option Bindings) (environment environment' : Table String String) (name : String) : Prop :=
  (file.getD []).get? name = (file'.getD []).get? name ∧ environment.get? name = environment'.get? name

variable {file file' : Option Bindings} {environment environment' : Table String String}

theorem SameAt.known?_eq {name : String} (same : SameAt file file' environment environment' name) :
    known? file environment name = known? file' environment' name := by
  rw [known?, known?, same.1, same.2]

theorem Resolves.congr {text text' : String → Option String} {out : Except Failure Defaults}
    (resolves : Resolves text out) (same : ∀ s ∈ settings, text s.fullName = text' s.fullName) :
    Resolves text' out := by
  cases resolves with
  | returns each => exact .returns fun s mem => same s mem ▸ each s mem
  | refuses place earlier refused =>
    refine .refuses place (fun s mem => ?_) (same _ (List.mem_of_getElem? place) ▸ refused)
    exact same s (List.mem_of_mem_take mem) ▸ earlier s mem

variable (environment) in
theorem defaults_resolves_known (distinct : ((file.getD []).map (·.1)).Nodup) :
    Resolves (known? file environment) (defaults (merged file environment)) :=
  (defaults_resolves _).congr fun s _ => get?_merged distinct s.name

/-- The values of all settings come from the file as far as it has their names, and then from the environment,
which is the order in which they should count exactly when no bare name hides a value that would make a difference.
Each depends on its own name alone, and names of other beginnings do not matter. -/
theorem precedence_holds_iff (distinct : ((file.getD []).map (·.1)).Nodup) :
    Resolves (known? file environment) (defaults (merged file environment)) ∧
    (Resolves (effective? file environment) (defaults (merged file environment)) ↔
      HidesNothing file environment (defaults (merged file environment))) ∧
    ∀ file' environment', ((file'.getD []).map (·.1)).Nodup →
      ((∀ rest, SameAt file file' environment environment' (shared ++ rest)) →
        defaults (merged file environment) = defaults (merged file' environment')) ∧
      ∀ d d', defaults (merged file environment) = .ok d → defaults (merged file' environment') = .ok d' →
        (∀ s ∈ settings, SameAt file file' environment environment' s.fullName → s.value d = s.value d') ∧
        (SameAt file file' environment environment' (shared ++ "USER_AGENT") → d.userAgent = d'.userAgent) := by
  have known := defaults_resolves_known environment distinct
  refine ⟨known, resolves_effective_iff known, fun file' environment' distinct' => ⟨fun same => ?_, ?_⟩⟩
  · refine defaults_congr fun rest => ?_
    rw [get?_merged distinct, get?_merged distinct', (same rest).known?_eq]
  · intro d d' done done'
    have known' := defaults_resolves_known environment' distinct'
    rw [done] at known
    rw [done'] at known'
    constructor
    · intro s mem same
      cases known with
      | returns each =>
      cases known' with
      | returns each' =>
      have read := each s mem
      rw [same.known?_eq] at read
      exact Except.ok.inj (read.unique (each' s mem))
    · intro same
      rw [userAgent_of_defaults done, userAgent_of_defaults done', get?_merged distinct, get?_merged distinct',
        same.known?_eq]

/-- A name without a value hides the number that the environment has for it. -/
theorem bare_name_hides_number :
    let file : Bindings := Bindings.ofText [] "PAGEQUERY_WAIT_TIMEOUT_MS\n".toList
    let environment : Table String String := [("PAGEQUERY_WAIT_TIMEOUT_MS", "1500")]
    effective? (some file) environment "PAGEQUERY_WAIT_TIMEOUT_MS" = some "1500" ∧
    defaults (merged (some file) environment) = .ok {} ∧
    ¬ Resolves (effective? (some file) environment) (defaults (merged (some file) environment)) := by
  have text : Bindings.ofText [] "PAGEQUERY_WAIT_TIMEOUT_MS\n".toList = [("PAGEQUERY_WAIT_TIMEOUT_MS", none)] := by
    decide +kernel
  rw [text]
  refine ⟨rfl, rfl, fun effective => ?_⟩
  cases effective with
  | returns each =>
    have read := each ⟨"WAIT_TIMEOUT_MS", Defaults.waitTimeoutMs⟩ List.mem_cons_self
    have numeral : Text.Numeral "1500" 1500 := Text.integer?_eq_some_iff.mp (by decide)
    cases read.unique (.number numeral)

/-- A file with values and a bare name that the environment does not have either. -/
theorem precedence_holds_at_numbers :
    let file : Bindings := [("PAGEQUERY_WAIT_TIMEOUT_MS", some " 2_50 "), ("PAGEQUERY_POLL_INTERVAL_MS", none)]
    let environment := [("PAGEQUERY_WAIT_TIMEOUT_MS", "9999"), ("PAGEQUERY_NAVIGATION_TIMEOUT_MS", "")]
    (file.map (·.1)).Nodup ∧ defaults (merged (some file) environment) = .ok { waitTimeoutMs := 250 } ∧
    Resolves (effective? (some file) environment) (defaults (merged (some file) environment)) := by
  intro file environment
  have distinct : (((some file).getD []).map (·.1)).Nodup := by decide
  have done : defaults (merged (some file) environment) = .ok { waitTimeoutMs := 250 } := by
    rfl
  refine ⟨distinct, done, (precedence_holds_iff distinct).2.1.mpr ?_⟩
  rw [done]
  refine List.forall_mem_cons.mpr ⟨nofun, List.forall_mem_cons.mpr ⟨nofun, List.forall_mem_singleton.mpr ?_⟩⟩
  exact fun _ => .absent

end Precedence

end PageHarvest.Settings
