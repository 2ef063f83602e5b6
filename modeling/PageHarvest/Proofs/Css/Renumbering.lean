import PageHarvest.Css.Match
import PageHarvest.Proofs.Html.Renumbering

/-!
Selectors do not see the numbers of elements, but for telling the element apart that a search starts
at. What they pick is the same in a document whose elements are numbered otherwise.
-/
namespace PageHarvest.Css
open Html (Node Place)

section Places
variable (f : Nat → Nat) (p : Place)

@[simp]
theorem isQuiet_renumber (n : Node) : isQuiet (n.renumber f) = isQuiet n := by
  cases n <;> rfl

@[simp]
theorem isTop_renumber : isTop (p.renumber f) = isTop p := by
  unfold isTop
  rw [Place.parent?_renumber]
  cases p.parent? with
  | none => simp only [Option.map_none, Place.tag_renumber]
  | some parent =>
    simp only [Option.map_some, Place.isFrame_renumber, Place.parent?_renumber, Option.isNone_map,
      Place.tag_renumber, Place.preceding_renumber, List.any_map, Function.comp_def,
      Place.isElement_renumber]

@[simp]
theorem isRoot_renumber : isRoot (p.renumber f) = isRoot p := by
  simp only [isRoot, isTop_renumber, Place.preceding_renumber, Place.following_renumber, List.all_map,
    Function.comp_def, Place.node_renumber, isQuiet_renumber]

@[simp]
theorem isEmpty_renumber (n : Node) : isEmpty (n.renumber f) = isEmpty n := by
  rw [isEmpty, isEmpty, Node.tag?_renumber, Node.children_renumber, List.all_map]
  congr 1
  congr 1
  funext c
  cases c <;> rfl

@[simp]
theorem attrText?_renumber (n : Node) (name : String) :
    attrText? (n.renumber f) name = attrText? n name := by
  rw [attrText?, attrText?, Node.attrs_renumber]

@[simp]
theorem hasWord_renumber (n : Node) (word : String) : hasWord (n.renumber f) word = hasWord n word := by
  rw [hasWord, hasWord, Node.attrs_renumber]

@[simp]
theorem attrTest_renumber (t : AttrTest) (n : Node) : t.passes (n.renumber f) = t.passes n := by
  rw [AttrTest.passes, AttrTest.passes, attrText?_renumber]

@[simp]
theorem tellsAny_renumber (n : Node) (own : Bool) (texts : List String) :
    tellsAny (n.renumber f) own texts = tellsAny n own texts := by
  rw [tellsAny, tellsAny, Node.tag?_renumber, Node.ownTexts_renumber, Node.allTexts_renumber]

theorem filter_isElement_renumber (ps : List Place) :
    (ps.map (Place.renumber f)).filter Place.isElement =
      (ps.filter Place.isElement).map (Place.renumber f) := by
  rw [List.filter_map]
  exact congrArg _ (List.filter_congr fun q _ => q.isElement_renumber f)

@[simp]
theorem reached_renumber (c : Combinator) :
    reached c (p.renumber f) = (reached c p).map (Place.renumber f) := by
  cases c with
  | descendant => exact p.descendants_renumber f
  | frameDescendant => exact p.frameDescendants_renumber f
  | child => rw [reached, Place.children_renumber, filter_isElement_renumber, reached]
  | adjacent => rw [reached, Place.following_renumber, filter_isElement_renumber, ← List.map_take, reached]
  | later => rw [reached, Place.following_renumber, filter_isElement_renumber, reached]

@[simp]
theorem reachedFrom_renumber (c : Combinator) :
    reachedFrom c (p.renumber f) = (reachedFrom c p).map (Place.renumber f) := by
  cases c with
  | descendant => exact p.ancestors_renumber f
  | frameDescendant => exact p.frameAncestors_renumber f
  | child =>
    rw [reachedFrom, Place.parent?_renumber, reachedFrom]
    cases p.parent? <;> rfl
  | adjacent =>
    rw [reachedFrom, Place.preceding_renumber, filter_isElement_renumber, ← List.map_take, reachedFrom]
  | later => rw [reachedFrom, Place.preceding_renumber, filter_isElement_renumber, reachedFrom]

@[simp]
theorem counted_renumber (fromEnd : Bool) :
    counted (p.renumber f) fromEnd = (counted p fromEnd).map (Place.renumber f) := by
  cases fromEnd with
  | true => simp only [counted, if_true, Place.following_renumber, filter_isElement_renumber]
  | false =>
    simp only [counted, Bool.false_eq_true, if_false, Place.preceding_renumber, filter_isElement_renumber]

@[simp]
theorem lastIndex_renumber : lastIndex (p.renumber f) = lastIndex p := by
  rw [lastIndex, Place.parent?_renumber, lastIndex]
  cases p.parent? with
  | none => rfl
  | some parent =>
    simp only [Option.map_some, Place.node_renumber, Node.children_renumber, List.length_map]

theorem scopeOf_renumber : scopeOf (p.renumber f) = (scopeOf p).map f := by
  rw [scopeOf, scopeOf, Place.tag_renumber, Place.id?_renumber, Place.children_renumber,
    filter_isElement_renumber, List.head?_map]
  split
  · cases (p.children.filter Place.isElement).head? with
    | none => rfl
    | some q => exact q.id?_renumber f
  · rfl

end Places

section States
variable (f : Nat → Nat) (n : Node) (p : Place)

@[simp]
theorem attrWord?_renumber (name : String) : attrWord? (n.renumber f) name = attrWord? n name := by
  rw [attrWord?, attrText?_renumber, attrWord?]

@[simp]
theorem isBounded_renumber (beyond : Bool) : isBounded beyond (n.renumber f) = isBounded beyond n := by
  simp only [isBounded, attrWord?_renumber, attrText?_renumber]

@[simp]
theorem form?_renumber : form? (p.renumber f) = (form? p).map (Place.renumber f) := by
  simp only [form?, Place.frameAncestors_renumber, List.find?_map, Function.comp_def, Place.tag_renumber]

@[simp]
theorem group?_renumber : group? (p.renumber f) = (group? p).map (Place.renumber f) := by
  rw [group?, form?_renumber, Place.frameAncestors_renumber, List.getLast?_map, group?]
  cases form? p <;> rfl

@[simp]
theorem submits_renumber : submits (p.renumber f) = submits p := by
  simp only [submits, Place.tag_renumber, Place.node_renumber, attrWord?_renumber]

@[simp]
theorem writtenLanguage?_renumber : writtenLanguage? (p.renumber f) = writtenLanguage? p := by
  simp only [writtenLanguage?, Place.frameAncestors_renumber, ← List.map_cons, List.filterMap_map,
    Function.comp_def, Place.node_renumber, attrText?_renumber]

@[simp]
theorem firstChild?_renumber (tag : String) :
    firstChild? tag (p.renumber f) = (firstChild? tag p).map (Place.renumber f) := by
  simp only [firstChild?, Place.children_renumber, List.find?_map, Function.comp_def, Place.tag_renumber]

@[simp]
theorem namedLanguage?_renumber : namedLanguage? (p.renumber f) = namedLanguage? p := by
  simp only [namedLanguage?, Place.tag_renumber, Place.node_renumber, attrWord?_renumber, attrText?_renumber]

@[simp]
theorem headLanguage?_renumber : headLanguage? (p.renumber f) = headLanguage? p := by
  have named (q : Place) : (q.renumber f).children.findSome? namedLanguage? =
      q.children.findSome? namedLanguage? := by
    simp only [Place.children_renumber, List.findSome?_map, Function.comp_def, namedLanguage?_renumber]
  simp only [headLanguage?, Place.frameAncestors_renumber, ← List.map_cons, List.getLast?_map,
    Option.bind_eq_bind, Option.bind_map, Function.comp_def, firstChild?_renumber, named]

@[simp]
theorem writtenDirection?_renumber : writtenDirection? (n.renumber f) = writtenDirection? n := by
  rw [writtenDirection?, attrWord?_renumber, writtenDirection?]

theorem keepsApart_of_same {n n' : Node} (tag : n'.tag? = n.tag?) (attrs : n'.attrs = n.attrs) :
    keepsApart n' = keepsApart n := by
  simp only [keepsApart, writtenDirection?, attrWord?, attrText?, tag, attrs]

mutual

@[simp]
theorem textDirection?_renumber (f : Nat → Nat) (n : Node) :
    textDirection? (n.renumber f) = textDirection? n := by
  match n with
  | .element id tag attrs children =>
    have apart : keepsApart (.element (f id) tag attrs []) = keepsApart (.element id tag attrs []) :=
      keepsApart_of_same rfl rfl
    rw [Node.renumber, textDirection?, textDirectionAmong?_renumberAll f children, apart, textDirection?]
  | .text kind s => rfl

theorem textDirectionAmong?_renumberAll (f : Nat → Nat) (ns : List Node) :
    textDirectionAmong? (Html.renumberAll f ns) = textDirectionAmong? ns := by
  match ns with
  | [] => rfl
  | n :: rest =>
    rw [Html.renumberAll, textDirectionAmong?, textDirection?_renumber f n,
      textDirectionAmong?_renumberAll f rest, textDirectionAmong?]

end

@[simp]
theorem fieldText?_renumber : fieldText? (n.renumber f) = fieldText? n := by
  simp only [fieldText?, Node.tag?_renumber, Node.ownTexts_renumber, attrWord?_renumber,
    attrText?_renumber]

@[simp]
theorem ownDirection?_renumber : ownDirection? (p.renumber f) = ownDirection? p := by
  have among : textDirectionAmong? (p.node.children.map (Node.renumber f)) =
      textDirectionAmong? p.node.children := by
    rw [← Html.renumberAll_eq_map, textDirectionAmong?_renumberAll]
  simp only [ownDirection?, isTop_renumber, Place.node_renumber, writtenDirection?_renumber,
    fieldText?_renumber, Node.children_renumber, among, Place.tag_renumber, attrWord?_renumber]

@[simp]
theorem inheritedDirection?_renumber : inheritedDirection? (p.renumber f) = inheritedDirection? p := by
  simp only [inheritedDirection?, Place.frameAncestors_renumber, ← List.map_cons, List.findSome?_map,
    Function.comp_def, ownDirection?_renumber]

variable {f}

theorem map_beq_map (apart : Function.Injective f) (a b : Option Nat) : (a.map f == b.map f) = (a == b) := by
  rw [Bool.eq_iff_iff, beq_iff_eq, beq_iff_eq]
  exact (Option.map_injective apart).eq_iff

theorem sameId_renumber (apart : Function.Injective f) (p q : Place) :
    ((p.renumber f).id? == (q.renumber f).id?) = (p.id? == q.id?) := by
  rw [Place.id?_renumber, Place.id?_renumber, map_beq_map apart]

theorem isFirstSubmit_renumber (apart : Function.Injective f) :
    isFirstSubmit (p.renumber f) = isFirstSubmit p := by
  simp only [isFirstSubmit, form?_renumber, Option.any_map, Function.comp_def,
    Place.frameDescendants_renumber, List.takeWhile_map, Place.tag_renumber, List.find?_map,
    submits_renumber, sameId_renumber apart]

theorem isChosen_renumber (apart : Function.Injective f) (group q : Place) :
    isChosen (group.renumber f) (p.renumber f) (q.renumber f) = isChosen group p q := by
  simp only [isChosen, Place.tag_renumber, Place.node_renumber, attrWord?_renumber, attrText?_renumber,
    group?_renumber, Option.any_map, sameId_renumber apart]

theorem isUnchosen_renumber (apart : Function.Injective f) : isUnchosen (p.renumber f) = isUnchosen p := by
  simp only [isUnchosen, group?_renumber, Option.all_map, Function.comp_def,
    Place.frameDescendants_renumber, List.all_map, sameId_renumber apart, isChosen_renumber p apart]

theorem holds_renumber (apart : Function.Injective f) (s : State) : s.holds (p.renumber f) = s.holds p := by
  cases s with
  | known => simp only [State.holds, Place.tag_renumber]
  | bounded beyond => simp only [State.holds, Place.node_renumber, isBounded_renumber]
  | firstSubmit => exact isFirstSubmit_renumber p apart
  | unchosen => exact isUnchosen_renumber p apart
  | speaks ranges => simp only [State.holds, speaksAny, writtenLanguage?_renumber, headLanguage?_renumber]
  | runs direction => simp only [State.holds, inheritedDirection?_renumber]

end States

mutual

theorem passes_renumber {f : Nat → Nat} (apart : Function.Injective f) (scope : Option Nat) (t : Test)
    (p : Place) : t.passes (scope.map f) (p.renumber f) = t.passes scope p := by
  match t with
  | .tag name => simp only [Test.passes, Place.tag_renumber]
  | .id value => simp only [Test.passes, Place.node_renumber, attrText?_renumber]
  | .word value => simp only [Test.passes, Place.node_renumber, hasWord_renumber]
  | .attr a => simp only [Test.passes, Place.node_renumber, attrTest_renumber]
  | .root => simp only [Test.passes, isRoot_renumber]
  | .scope =>
    -- besides some states, the only test that looks at numbers
    simp only [Test.passes, Place.id?_renumber, Option.isSome_map, map_beq_map apart]
  | .empty => simp only [Test.passes, Place.node_renumber, isEmpty_renumber]
  | .textless => simp only [Test.passes, Place.node_renumber, Node.allTexts_renumber]
  | .never => rfl
  | .state s => exact holds_renumber p apart s
  | .nth positions among =>
    have counts (q : Place) := anyPasses_renumber apart scope among q
    simp only [Test.passes, counts, Place.tag_renumber, lastIndex_renumber, counted_renumber,
      List.filter_map, List.length_map, Function.comp_def]
  | .oneOf alternatives => simp only [Test.passes, anyPasses_renumber apart scope alternatives p]
  | .noneOf alternatives => simp only [Test.passes, anyPasses_renumber apart scope alternatives p]
  | .tells own texts => simp only [Test.passes, Place.node_renumber, tellsAny_renumber]
  | .follows c tests =>
    have each (q : Place) := allPass_renumber apart scope tests q
    simp only [Test.passes, reachedFrom_renumber, List.any_map, Function.comp_def, each]
  | .leads c tests =>
    have each (q : Place) := allPass_renumber apart scope tests q
    simp only [Test.passes, reached_renumber, List.any_map, Function.comp_def, each]

theorem allPass_renumber {f : Nat → Nat} (apart : Function.Injective f) (scope : Option Nat)
    (tests : List Test) (p : Place) :
    allPass (scope.map f) tests (p.renumber f) = allPass scope tests p := by
  match tests with
  | [] => rfl
  | t :: rest => rw [allPass, allPass, passes_renumber apart scope t p, allPass_renumber apart scope rest p]

theorem anyPasses_renumber {f : Nat → Nat} (apart : Function.Injective f) (scope : Option Nat)
    (alternatives : List (List Test)) (p : Place) :
    anyPasses (scope.map f) alternatives (p.renumber f) = anyPasses scope alternatives p := by
  match alternatives with
  | [] => rfl
  | a :: rest =>
    rw [anyPasses, anyPasses, allPass_renumber apart scope a p, anyPasses_renumber apart scope rest p]

end

/-- A selector picks the same places under other numbers. -/
theorem select_renumber {f : Nat → Nat} (apart : Function.Injective f) (s : Selector) (p : Place) :
    select s (p.renumber f) = (select s p).map (Place.renumber f) := by
  rw [select, scopeOf_renumber, Place.descendants_renumber, List.filter_map, select]
  exact congrArg _ (List.filter_congr fun q _ => anyPasses_renumber apart (scopeOf p) s q)

end PageHarvest.Css
