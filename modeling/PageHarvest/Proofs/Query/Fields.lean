import PageHarvest.Proofs.Query.Validity
import PageHarvest.Proofs.Replay.Deadline
import PageHarvest.Proofs.Replay.Motion

/-!
What a selection makes of its definition. A field can be spelled in several ways, which agree wherever they
all look for an empty selector; and every entry of the definition has a field, but the records keep only one
of several fields whose names read the same.
-/
namespace PageHarvest
namespace Field

section Spellings
variable [Stack]

/-- All definitions are rejected in their place in a mapping, or all make the same fields of it. -/
def Agree (definitions : List Value) (k : Value) (before after : Mapping) : Prop :=
  (∀ v ∈ definitions, ofMapping (.map (before ++ (k, v) :: after)) = .error malformed) ∨
    ∃ fields, ∀ v ∈ definitions, ofMapping (.map (before ++ (k, v) :: after)) = .ok fields

/-- The ways to ask for the text of what a selector matches. -/
def textSpellings (selector : String) : List Value :=
  [.text selector, .map [(.text "path", .text selector)], .map [(.text "selector", .text selector)]]

/-- The ways to ask for an attribute of what a selector matches. -/
def attrSpellings (selector : String) (attr : Value) : List Value :=
  [.map [(.text "path", .text selector), (.text "attr", attr)],
    .map [(.text "selector", .text selector), (.text "attribute", attr)],
    .map [(.text "path", .text selector), (.text "attribute", attr)],
    .map [(.text "selector", .text selector), (.text "attr", attr)]]

/-- An entry among others that can be read decides about them all, and its field stands in its place. -/
theorem ofMapping_among {before after : Mapping} {others : List Field}
    (valid : ofMapping (.map (before ++ after)) = .ok others) : ∃ first last : List Field, ∀ e,
      ofMapping (.map (before ++ e :: after)) = (ofEntry e).map fun f => first ++ f :: last := by
  have parts : (before ++ after).mapM ofEntry = .ok others := valid
  rw [List.mapM_append] at parts
  obtain ⟨first, beforeRead, parts⟩ := bind_ok_iff.mp parts
  obtain ⟨last, afterRead, -⟩ := bind_ok_iff.mp parts
  refine ⟨first, last, fun e => ?_⟩
  show (before ++ e :: after).mapM ofEntry = _
  rw [List.mapM_append, List.mapM_cons, beforeRead, afterRead]
  cases ofEntry e <;> rfl

theorem agree_iff {before after : Mapping} {others : List Field}
    (valid : ofMapping (.map (before ++ after)) = .ok others) {definitions : List Value} {k : Value} :
    Agree definitions k before after ↔
      (∀ v ∈ definitions, ofDefinition k.plain v = .error malformed) ∨
        k.unshown? = none ∧ ∃ f, ∀ v ∈ definitions, ofDefinition k.plain v = .ok f := by
  obtain ⟨first, last, whole⟩ := ofMapping_among valid
  simp only [Agree, whole, map_error_iff, map_ok_iff, ofEntry_malformed_iff, ofEntry_ok_iff]
  cases definitions with
  | nil => exact ⟨fun _ => .inl nofun, fun _ => .inl nofun⟩
  | cons v definitions =>
    refine or_congr_right ⟨?_, ?_⟩
    · rintro ⟨fields, all⟩
      obtain ⟨f, ⟨-, shown⟩, same⟩ := all v List.mem_cons_self
      refine ⟨shown, f, fun v' mem => ?_⟩
      obtain ⟨f', ⟨read, -⟩, same'⟩ := all v' mem
      have tails := List.append_cancel_left (same.trans same'.symm)
      rw [(List.cons.inj tails).1]
      exact read
    · rintro ⟨shown, f, all⟩
      exact ⟨first ++ f :: last, fun v' mem => ⟨f, ⟨all v' mem, shown⟩, rfl⟩⟩

theorem agree_textSpellings_iff {before after : Mapping} {others : List Field}
    (valid : ofMapping (.map (before ++ after)) = .ok others) {k : Value} {s : String} :
    Agree (textSpellings s) k before after ↔ s ≠ "" ∧ k.unshown? = none := by
  rw [agree_iff valid]
  constructor
  · rintro (rejected | ⟨shown, f, all⟩)
    · cases rejected (.text s) (by simp [textSpellings])
    · refine ⟨?_, shown⟩
      rintro rfl
      cases all (.map [(.text "path", .text "")]) (by simp [textSpellings])
  · rintro ⟨filled, shown⟩
    refine .inr ⟨shown, ⟨k.plain, s, none⟩, fun v mem => ofDefinition_ok_iff.mpr ⟨rfl, ?_⟩⟩
    simp only [textSpellings, List.mem_cons, List.not_mem_nil, or_false] at mem
    obtain rfl | rfl | rfl := mem
    · exact .short s
    · exact .spelled rfl filled rfl
    · exact .spelled rfl filled rfl

omit [Stack] in
/-- The keys of a mapping that names an attribute do not matter. -/
theorem ofDefinition_attrSpelling {name selector : String} {attr v : Value}
    (mem : v ∈ attrSpellings selector attr) : ofDefinition name v =
      match attrOf? attr with
      | some attr => if selector = "" then .error malformed else .ok ⟨name, selector, attr⟩
      | none => .error malformed := by
  have read : ∃ m, v = .map m ∧ either m "path" "selector" = .text selector ∧
      either m "attr" "attribute" = attr := by
    simp only [attrSpellings, List.mem_cons, List.not_mem_nil, or_false] at mem
    obtain rfl | rfl | rfl | rfl := mem
    all_goals exact ⟨_, rfl, rfl, rfl⟩
  obtain ⟨m, rfl, path, named⟩ := read
  rw [ofDefinition_map, path, named]
  cases attrOf? attr <;> rfl

theorem agree_attrSpellings_iff {before after : Mapping} {others : List Field}
    (valid : ofMapping (.map (before ++ after)) = .ok others) {k a : Value} {s : String} :
    Agree (attrSpellings s a) k before after ↔ s = "" ∨ attrOf? a = none ∨ k.unshown? = none := by
  rw [agree_iff valid]
  have first : .map [(.text "path", .text s), (.text "attr", a)] ∈ attrSpellings s a := List.mem_cons_self
  constructor
  · rintro (rejected | ⟨shown, -⟩)
    · have rejected := (ofDefinition_attrSpelling first).symm.trans (rejected _ first)
      split at rejected
      · split at rejected
        · exact .inl ‹_›
        · cases rejected
      · exact .inr (.inl ‹_›)
    · exact .inr (.inr shown)
  · intro fits
    cases named : attrOf? a with
    | none =>
      refine .inl fun v mem => ?_
      rw [ofDefinition_attrSpelling mem, named]
    | some attr =>
      by_cases empty : s = ""
      · refine .inl fun v mem => ?_
        rw [ofDefinition_attrSpelling mem, named]
        exact if_pos empty
      · have shown : k.unshown? = none := by simpa [empty, named] using fits
        refine .inr ⟨shown, ⟨k.plain, s, attr⟩, fun v mem => ?_⟩
        rw [ofDefinition_attrSpelling mem, named]
        exact if_neg empty

end Spellings
end Field

namespace Replay
open Handler
variable {W P H C : Type}

/-- The calls of a selection that comes to its end. -/
def asksOf (fields : List Field) (roots : List (Option H)) : List (PageCall H) :=
  roots.flatMap fun root => fields.map fun f => .extract root f.selector f.attr

/-- What is noted of each thing in turn is noted of them all, as far as the first that fails. -/
theorem InTurn.noted {ι κ α ν : Type} {ask : ι → W → List κ → Except Failure α → W → Prop}
    (note : κ → ν) (own : ι → List ν)
    (each : ∀ {i w calls out w'}, ask i w calls out w' →
      calls.map note <+: own i ∧ ∀ a, out = .ok a → calls.map note = own i)
    {is : List ι} {w w' : W} {calls : List κ} {out : Except Failure (List α)}
    (asked : InTurn ask is w calls out w') :
    calls.map note <+: is.flatMap own ∧ ∀ as, out = .ok as → calls.map note = is.flatMap own := by
  induction asked with
  | nil w => exact ⟨List.prefix_rfl, fun _ _ => rfl⟩
  | next first others ih =>
    have here := (each first).2 _ rfl
    rw [List.map_append, List.flatMap_cons, here]
    refine ⟨(List.prefix_append_right_inj _).mpr ih.1, fun as done => ?_⟩
    obtain ⟨rest, later, -⟩ := map_ok_iff.mp done
    rw [ih.2 rest later]
  | stop failed =>
    rw [List.flatMap_cons]
    exact ⟨(each failed).1.trans (List.prefix_append _ _), nofun⟩

/-- What always answers is answered in turn. -/
theorem InTurn.answered {ι κ α : Type} {ask : ι → W → List κ → Except Failure α → W → Prop}
    (each : ∀ {i w calls out w'}, ask i w calls out w' → ∃ a, out = .ok a)
    {is : List ι} {w w' : W} {calls : List κ} {out : Except Failure (List α)}
    (asked : InTurn ask is w calls out w') : ∃ as, out = .ok as := by
  induction asked with
  | nil w => exact ⟨[], rfl⟩
  | next first others ih =>
    obtain ⟨as, rfl⟩ := ih
    exact ⟨_, rfl⟩
  | stop failed => cases (each failed).choose_spec

section Selection
variable {h : Host W P H C}

theorem noted_recordRead {page : P} {fields : List Field} {root : Option H} {w w' : W}
    {calls : List (NotedCall P H)} {out : Except Failure Record}
    (read : RecordRead h page fields root w calls out w') :
    calls.map (·.call) <+: (fields.map fun f => .extract root f.selector f.attr) ∧ ∀ record,
      out = .ok record → calls.map (·.call) = fields.map fun f => .extract root f.selector f.attr := by
  obtain ⟨values, asked, rfl⟩ := read
  have single : (fields.map fun f => PageCall.extract root f.selector f.attr) =
      fields.flatMap fun f => [.extract root f.selector f.attr] := List.map_eq_flatMap
  rw [single]
  obtain ⟨upTo, whole⟩ := asked.noted (·.call) (fun f => [.extract root f.selector f.attr]) <| by
    rintro f w calls out w' ⟨rfl, -⟩
    exact ⟨List.prefix_rfl, fun _ _ => rfl⟩
  refine ⟨upTo, fun record read => ?_⟩
  obtain ⟨all, rfl, -⟩ := map_ok_iff.mp read
  exact whole all rfl

/-- A selection asks for its fields under each root in turn, as far as the first call that fails. -/
theorem calls_selectStep (h : Host W P H C) (fields : List Field) (state : ReplayState P H) (w : W) :
    ∃ calls, ((selectStep h.recorded fields state).runOn ⟨w, [], []⟩).2.calls = calls ∧
      calls.map (·.call) <+: asksOf fields state.scope.roots ∧
      ((∀ page root selector attr w, ∃ v w', (h.extract page root selector attr).runOn w = (.ok v, w')) →
        calls.map (·.call) = asksOf fields state.scope.roots) := by
  obtain ⟨calls, out, w', means, does⟩ := does_selectStep (d := {}) h.recorded_records state w fields
  obtain ⟨log, run⟩ := does.runOn_recorded
  cases means with
  | selected asked =>
    obtain ⟨upTo, whole⟩ := asked.noted (·.call) _ noted_recordRead
    refine ⟨calls, congrArg (·.2.calls) run, upTo, fun answers => ?_⟩
    obtain ⟨records, rfl⟩ := asked.answered <| by
      rintro root w calls out w' ⟨values, read, rfl⟩
      obtain ⟨all, rfl⟩ := read.answered <| by
        rintro f w calls out w' ⟨-, done⟩
        obtain ⟨v, w₁, answer⟩ := answers state.page root f.selector f.attr w
        exact ⟨v, congrArg Prod.fst (done.symm.trans answer)⟩
      exact ⟨_, rfl⟩
    exact whole records rfl

/-- Every record of a selection has the names of the fields, each once. -/
theorem selectStep_ok {fields : List Field} {state next : ReplayState P H} {w w' : W}
    (run : (selectStep h fields state).runOn w = (.ok next, w')) : ∃ records,
    next = state.withRecords records ∧ records.length = state.scope.roots.length ∧
      ∀ record ∈ records, record.map (·.1) = (fields.map (·.name)).eraseDups := by
  obtain ⟨records, w₁, read, done⟩ := Act.runOn_bind_ok run
  rw [readRecords_eq_mapM] at read
  refine ⟨records, ?_, Act.length_of_mapM read, fun record mem => ?_⟩
  · cases done
    rfl
  · obtain ⟨i, inside, rfl⟩ := List.getElem_of_mem mem
    obtain ⟨v, v', one⟩ := (Act.answers_of_mapM read).get (Act.length_of_mapM read ▸ inside) inside
    rw [readFields_eq_recordOf] at one
    obtain ⟨values, made, asked⟩ := Act.runOn_map_ok one
    rw [List.get_eq_getElem] at made
    rw [made]
    exact names_recordOf (Act.length_of_mapM asked)

end Selection
end Replay

namespace Field
open Replay Handler

section
variable [Stack] {C : Type}

theorem matched_of_ofMapping {m : Mapping} {fields : List Field} (read : ofMapping (.map m) = .ok fields) :
    List.Forall₂ (fun e f => f.name = e.1.plain ∧ Written e.2 f.selector f.attr) m fields := by
  refine (mapM_ok_iff.mp read).imp fun e f one => ?_
  exact ofDefinition_ok_iff.mp (ofEntry_ok_iff.mp one).1

/-- No page is asked for an empty selector, wherever fields are selected. -/
def NeverEmpty (C : Type) (fields : List Field) : Prop :=
  ∀ {W P H : Type} (h : Host W P H C) (state : ReplayState P H) (w : W),
    ∀ c ∈ ((selectStep h.recorded fields state).runOn ⟨w, [], []⟩).2.calls,
      ∀ root attr, c.call ≠ .extract root "" attr

omit [Stack] in
theorem neverEmpty_iff (fields : List Field) : NeverEmpty C fields ↔ ∀ f ∈ fields, f.selector ≠ "" := by
  constructor
  · intro never f mem empty
    obtain ⟨calls, made, -, whole⟩ := calls_selectStep (timetable (H := Unit) (C := C) fun _ => 0) fields
      (.initial ()) 0
    have asked : .extract none "" f.attr ∈ calls.map (·.call) := by
      rw [whole fun page root selector attr w => ⟨none, w, rfl⟩]
      exact List.mem_flatMap.mpr ⟨none, List.mem_singleton_self none, List.mem_map.mpr ⟨f, mem, empty ▸ rfl⟩⟩
    obtain ⟨c, inside, call⟩ := List.mem_map.mp asked
    exact never _ _ _ c (made ▸ inside) none f.attr call
  · intro filled W P H h state w c mem root attr call
    obtain ⟨calls, made, upTo, -⟩ := calls_selectStep h fields state w
    have asked := upTo.subset (List.mem_map.mpr ⟨c, made ▸ mem, call⟩)
    obtain ⟨root', -, inside⟩ := List.mem_flatMap.mp asked
    obtain ⟨f, given, same⟩ := List.mem_map.mp inside
    simp only [PageCall.extract.injEq] at same
    exact filled f given same.2.1

omit [Stack] in
theorem Written.empty_iff {v : Value} {selector : String} {attr : Option String}
    (written : Written v selector attr) : selector = "" ↔ v = .text "" := by
  cases written with
  | short s => rw [Value.text.injEq]
  | spelled path filled named => exact ⟨fun empty => absurd empty filled, nofun⟩

theorem filled_iff {m : Mapping} {fields : List Field} (read : ofMapping (.map m) = .ok fields) :
    (∀ f ∈ fields, f.selector ≠ "") ↔ ∀ e ∈ m, e.2 ≠ .text "" := by
  have matched := matched_of_ofMapping read
  clear read
  induction matched with
  | nil => exact ⟨fun _ => nofun, fun _ => nofun⟩
  | cons one _ ih =>
    rw [List.forall_mem_cons, List.forall_mem_cons]
    exact and_congr (not_congr one.2.empty_iff) ih

/-- Wherever a field stands among others that can be read, the spellings of a text agree exactly when its
selector is not empty, and those of an attribute whenever its name can be shown. It is only by the short
spelling of a text that an empty selector comes to a page. -/
theorem spellings_agree_iff {before after : Mapping} {others : List Field}
    (valid : ofMapping (.map (before ++ after)) = .ok others) (k : Value) (s : String) :
    (Agree (textSpellings s) k before after ↔ s ≠ "" ∧ k.unshown? = none) ∧
    (∀ a, Agree (attrSpellings s a) k before after ↔ s = "" ∨ attrOf? a = none ∨ k.unshown? = none) ∧
    ∀ {C : Type} (q q' : Query C) (v : Value), q.select v = .ok q' → ∃ m fields, v = .map m ∧
      q' = q.append (.select fields) ∧ (NeverEmpty C fields ↔ ∀ e ∈ m, e.2 ≠ .text "") := by
  refine ⟨agree_textSpellings_iff valid, fun a => agree_attrSpellings_iff valid, fun q q' v selected => ?_⟩
  obtain ⟨step, appends, rfl⟩ := (Query.apply_ok_iff (c := .select v)).mp selected
  cases appends with
  | @select _ fields read fresh =>
    cases v with
    | map m => exact ⟨m, fields, rfl, rfl, (neverEmpty_iff fields).trans (filled_iff read)⟩
    | _ => cases read

end

/-- A text and a link, beside another field. -/
theorem spellings_agree_at_title :
    ofMapping (.map [(.text "n", .text "li")]) = .ok [⟨"n", "li", none⟩] ∧
    Agree (textSpellings "p") (.text "t") [] [(.text "n", .text "li")] ∧
    Agree (attrSpellings "a" (.text "href")) (.text "t") [] [(.text "n", .text "li")] ∧
    ∃ fields, (⟨⟨"http://a/", "GET", .null⟩, []⟩ : Query Empty).select (.map [(.text "t", .text "p")]) =
      .ok ⟨⟨"http://a/", "GET", .null⟩, [.select fields]⟩ ∧ NeverEmpty Empty fields := by
  have valid : ofMapping (.map ([] ++ [(.text "n", .text "li")])) = .ok [⟨"n", "li", none⟩] := rfl
  obtain ⟨m, fields, same, built, never⟩ := (spellings_agree_iff valid (.text "t") "p").2.2
    (⟨⟨"http://a/", "GET", .null⟩, []⟩ : Query Empty) _ (.map [(.text "t", .text "p")]) rfl
  cases same
  cases built
  exact ⟨rfl, (spellings_agree_iff valid (.text "t") "p").1.mpr ⟨by decide, rfl⟩,
    ((spellings_agree_iff valid (.text "t") "a").2.1 (.text "href")).mpr (.inr (.inr rfl)), _, rfl,
    never.mpr (by simp)⟩

/-- The short spelling takes an empty selector, and hands it on. -/
theorem empty_selector_taken :
    ofMapping (.map [(.text "t", .text "")]) = .ok [⟨"t", "", none⟩] ∧
    ofMapping (.map [(.text "t", .map [(.text "path", .text "")])]) = .error malformed ∧
    ¬ Agree (textSpellings "") (.text "t") [] [] := by
  refine ⟨rfl, rfl, ?_⟩
  rintro (rejected | ⟨fields, all⟩)
  · cases rejected (.text "") List.mem_cons_self
  · cases all (.map [(.text "path", .text "")]) (by simp [textSpellings])

section
variable [Stack] {C : Type}

/-- No entry of a mapping is lost in its fields, or in a record of them. -/
structure KeepsEntries (C : Type) (m : Mapping) (fields : List Field) : Prop where
  matched : List.Forall₂ (fun e f => f.name = e.1.plain ∧ Written e.2 f.selector f.attr) m fields
  distinct : (fields.map (·.name)).Nodup
  recorded : ∀ {W P H : Type} (h : Host W P H C) (state next : ReplayState P H) (w w' : W),
    (selectStep h fields state).runOn w = (.ok next, w') → ∃ records, next = state.withRecords records ∧
      records.length = state.scope.roots.length ∧ ∀ record ∈ records, record.length = m.length

theorem names_of_ofMapping {m : Mapping} {fields : List Field} (read : ofMapping (.map m) = .ok fields) :
    fields.map (·.name) = m.map fun e => e.1.plain := by
  have matched := matched_of_ofMapping read
  clear read
  induction matched with
  | nil => rfl
  | cons one _ ih => rw [List.map_cons, List.map_cons, one.1, ih]

omit [Stack] in
theorem nodup_of_texts {m : Mapping} (texts : ∀ e ∈ m, ∃ name, e.1 = .text name)
    (distinct : m.Pairwise fun a b => a.1.sameKey b.1 = false) : (m.map fun e => e.1.plain).Nodup := by
  rw [List.Nodup, List.pairwise_map]
  refine distinct.imp_of_mem fun {a b} inside inside' different => ?_
  obtain ⟨name, key⟩ := texts a inside
  obtain ⟨name', key'⟩ := texts b inside'
  rw [key, key'] at different
  rw [key, key']
  exact beq_eq_false_iff_ne.mp different

theorem keepsEntries_of_nodup {m : Mapping} {fields : List Field} (read : ofMapping (.map m) = .ok fields)
    (distinct : (m.map fun e => e.1.plain).Nodup) : KeepsEntries C m fields := by
  have names := names_of_ofMapping read
  refine ⟨matched_of_ofMapping read, names ▸ distinct, fun h state next w w' run => ?_⟩
  obtain ⟨records, added, length, all⟩ := selectStep_ok run
  refine ⟨records, added, length, fun record mem => ?_⟩
  have whole := congrArg List.length (all record mem)
  rw [names, Table.eraseDups_of_nodup distinct, List.length_map, List.length_map] at whole
  exact whole

/-- A field is made of every entry, in order, and a record holds each of their names once: what is lost are
the entries whose key reads like one before. Keys that are texts read differently. -/
theorem entries_kept_iff {m : Mapping} {fields : List Field} (read : ofMapping (.map m) = .ok fields) :
    (∀ {W P H C : Type} (h : Host W P H C) (state next : ReplayState P H) (w w' : W),
      (selectStep h fields state).runOn w = (.ok next, w') → ∃ records,
        next = state.withRecords records ∧ records.length = state.scope.roots.length ∧
        ∀ record ∈ records, record.map (·.1) = (m.map fun e => e.1.plain).eraseDups) ∧
    (∀ C, KeepsEntries C m fields ↔ (m.map fun e => e.1.plain).Nodup) ∧
    ((∀ e ∈ m, ∃ name, e.1 = .text name) → m.Pairwise (fun a b => a.1.sameKey b.1 = false) →
      ∀ C, KeepsEntries C m fields) := by
  have names := names_of_ofMapping read
  refine ⟨fun h state next w w' run => ?_, fun C => ⟨fun keeps => ?_, keepsEntries_of_nodup read⟩, ?_⟩
  · rw [← names]
    exact selectStep_ok run
  · rw [← names]
    exact keeps.distinct
  · intro texts distinct C
    exact keepsEntries_of_nodup read (nodup_of_texts texts distinct)

end

theorem one_shown : (Value.int 1).unshown? = none := by
  rw [Value.unshown?_int]
  decide +kernel

/-- A number and a text that reads differently. -/
theorem entries_kept_at_ranks : ofMapping (.map [(.int 1, .text "p"), (.text "2", .text "a")]) =
      .ok [⟨"1", "p", none⟩, ⟨"2", "a", none⟩] ∧
    KeepsEntries Empty [(.int 1, .text "p"), (.text "2", .text "a")] [⟨"1", "p", none⟩, ⟨"2", "a", none⟩] := by
  have read : ofMapping (.map [(.int 1, .text "p"), (.text "2", .text "a")]) =
      .ok [⟨"1", "p", none⟩, ⟨"2", "a", none⟩] := mapM_ok_iff.mpr
    (.cons (ofEntry_ok_iff.mpr ⟨rfl, one_shown⟩) (.cons (ofEntry_ok_iff.mpr ⟨rfl, rfl⟩) .nil))
  exact ⟨read, ((entries_kept_iff read).2.1 Empty).mpr (by decide)⟩

/-- A number and its text are two keys of one name, under which a record keeps one value. -/
theorem numeral_lost : (Value.int 1).sameKey (.text "1") = false ∧
    ofMapping (.map [(.int 1, .text "p"), (.text "1", .text "a")]) =
      .ok [⟨"1", "p", none⟩, ⟨"1", "a", none⟩] ∧
    (selectStep (timetable (H := Unit) (C := Empty) fun _ => 0) [⟨"1", "p", none⟩, ⟨"1", "a", none⟩]
      (.initial ())).runOn 0 = (.ok ⟨(), .document, [.record [("1", .null)]], 1⟩, 0) ∧
    ¬ KeepsEntries Empty [(.int 1, .text "p"), (.text "1", .text "a")]
      [⟨"1", "p", none⟩, ⟨"1", "a", none⟩] := by
  refine ⟨rfl, mapM_ok_iff.mpr ?_, rfl, fun keeps => absurd keeps.distinct (by decide)⟩
  exact .cons (ofEntry_ok_iff.mpr ⟨rfl, one_shown⟩) (.cons (ofEntry_ok_iff.mpr ⟨rfl, rfl⟩) .nil)

end Field
end PageHarvest
