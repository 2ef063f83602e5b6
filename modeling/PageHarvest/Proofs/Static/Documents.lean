import Mathlib.Data.List.Pairwise
import PageHarvest.Proofs.Html.Numbering
import PageHarvest.Proofs.Static.Motion

/-!
Documents of static pages. Every number names an element of one document at most, elements are only
ever added to documents, and a page that is visited gets a document that nobody has seen before.
-/
namespace PageHarvest.StaticWorld
open Act (Moves)
open Html (Node)

/-- The document `document` has the element `i`. -/
def Holds (w : StaticWorld) (document i : Nat) : Prop :=
  ∃ t ∈ w.trees, t.id? = some document ∧ i ∈ t.numbers

/-- The document that a page shows. -/
def documentOf (w : StaticWorld) : PageRef → Option Nat
  | .page n => w.pages[n]?.map (·.document)
  | .nothing => none

/-- No number is used twice, and all pages show documents that are there. -/
structure Sound (w : StaticWorld) : Prop where
  below : ∀ t ∈ w.trees, ∀ i ∈ t.numbers, i < w.nextId
  apart : w.trees.Pairwise fun t u => ∀ i ∈ t.numbers, i ∉ u.numbers
  shows : ∀ {r d}, w.documentOf r = some d → w.Holds d d

/-- What comes after a world when elements are added, pages opened and addresses visited. -/
structure Later (w w' : StaticWorld) : Prop where
  sound : w.Sound → w'.Sound
  next : w.nextId ≤ w'.nextId
  holds : ∀ {d i}, w.Holds d i → w'.Holds d i
  pages : ∀ {r d}, w.documentOf r = some d →
    ∃ d', w'.documentOf r = some d' ∧ (d' = d ∨ w.nextId ≤ d')

instance : IsPreorder StaticWorld Later where
  refl _ := ⟨id, Nat.le_refl _, id, fun shown => ⟨_, shown, .inl rfl⟩⟩
  trans a b c first second := by
    refine ⟨second.sound ∘ first.sound, Nat.le_trans first.next second.next, second.holds ∘ first.holds, ?_⟩
    intro r d shown
    obtain ⟨d₁, shown₁, same | new⟩ := first.pages shown
    · obtain ⟨d₂, shown₂, same' | new'⟩ := second.pages shown₁
      · exact ⟨d₂, shown₂, .inl (same'.trans same)⟩
      · exact ⟨d₂, shown₂, .inr (Nat.le_trans first.next new')⟩
    · obtain ⟨d₂, shown₂, same' | new'⟩ := second.pages shown₁
      · exact ⟨d₂, shown₂, .inr (same' ▸ new)⟩
      · exact ⟨d₂, shown₂, .inr (Nat.le_trans first.next new')⟩

namespace Sound
variable {w : StaticWorld} (sound : Sound w)
include sound

theorem holds_lt {d i : Nat} (holds : w.Holds d i) : d < w.nextId := by
  obtain ⟨t, mem, same, -⟩ := holds
  exact sound.below t mem d (Node.mem_numbers_of_id? same)

/-- An element is in one tree only. -/
theorem tree_unique {t u : Node} {i : Nat} (t_mem : t ∈ w.trees) (u_mem : u ∈ w.trees)
    (t_has : i ∈ t.numbers) (u_has : i ∈ u.numbers) : t = u := by
  by_contra different
  have symm : Std.Symm fun t u : Node => ∀ i ∈ t.numbers, i ∉ u.numbers :=
    ⟨fun _ _ apart i has has' => apart i has' has⟩
  exact sound.apart.forall t_mem u_mem different i t_has u_has

theorem holds_unique {d d' i : Nat} (first : w.Holds d i) (second : w.Holds d' i) : d = d' := by
  obtain ⟨t, t_mem, t_id, t_has⟩ := first
  obtain ⟨u, u_mem, u_id, u_has⟩ := second
  cases sound.tree_unique t_mem u_mem t_has u_has
  exact Option.some.inj (t_id.symm.trans u_id)

/-- What lies below an element is in the same document. -/
theorem holds_of_place {d root i : Nat} {p : Html.Place} (holds : w.Holds d root)
    (found : w.place? root = some p) (inside : i ∈ p.node.numbers) : w.Holds d i := by
  obtain ⟨t, t_mem, t_id, t_has⟩ := holds
  obtain ⟨u, u_mem, search⟩ := List.exists_of_findSome?_eq_some found
  obtain ⟨root_mem, within⟩ := Html.Place.numbers_of_find? search
  cases sound.tree_unique t_mem u_mem t_has (within root root_mem)
  exact ⟨t, t_mem, t_id, within i inside⟩

end Sound

theorem sound_of_empty {w : StaticWorld} (trees : w.trees = []) (pages : w.pages = #[]) : Sound w where
  below t mem := by rw [trees] at mem; cases mem
  apart := by rw [trees]; exact .nil
  shows {r d} shown := by
    cases r with
    | nothing => cases shown
    | page n => rw [documentOf, pages] at shown; cases shown

/-- Nothing happens to documents when trees, numbers and pages stay. -/
theorem later_of_same {w w' : StaticWorld} (trees : w'.trees = w.trees) (pages : w'.pages = w.pages)
    (next : w'.nextId = w.nextId) : Later w w' := by
  cases w
  cases w'
  cases trees
  cases pages
  cases next
  exact ⟨fun sound => ⟨sound.below, sound.apart, sound.shows⟩, Nat.le_refl _, id,
    fun shown => ⟨_, shown, .inl rfl⟩⟩

/-- An element that is added has the next free number and nothing but text inside. -/
theorem append_ok {w w' : StaticWorld} {document : Nat} {e : NewElement}
    (done : w.append document e = .ok w') : w' = w ∨ ∃ parent new, new.numbers = [w.nextId] ∧
      w' = { w with trees := w.trees.map fun t => Node.appendTo parent new t, nextId := w.nextId + 1 } := by
  unfold append at done
  obtain ⟨s, -, done⟩ := bind_ok_iff.mp done
  split at done
  · cases done
    exact .inl rfl
  · cases done
    refine .inr ⟨_, _, ?_, rfl⟩
    refine congrArg (w.nextId :: ·) (List.eq_nil_iff_forall_not_mem.mpr fun i mem => ?_)
    obtain ⟨n, text, mem⟩ := Html.mem_numbersAmong.mp mem
    obtain ⟨s, -, rfl⟩ := List.mem_map.mp text
    cases mem

/-- What can come of trees when elements are put into them, moved about inside them or altered: each keeps
its root and its elements, and those that come up have numbers of their own. -/
structure Growth (w : StaticWorld) (grow : Node → Node) (nextId : Nat) : Prop where
  next : w.nextId ≤ nextId
  root : ∀ t ∈ w.trees, (grow t).id? = t.id?
  keeps : ∀ t ∈ w.trees, ∀ i ∈ t.numbers, i ∈ (grow t).numbers
  fresh : ∀ t ∈ w.trees, ∀ i ∈ (grow t).numbers, i ∈ t.numbers ∨ w.nextId ≤ i ∧ i < nextId
  apart : w.Sound →
    w.trees.Pairwise fun t u => ∀ i ∈ (grow t).numbers, w.nextId ≤ i → i ∉ (grow u).numbers

theorem Growth.later {w : StaticWorld} {grow : Node → Node} {nextId : Nat} (growth : w.Growth grow nextId) :
    Later w { w with trees := w.trees.map grow, nextId } := by
  have kept {d i : Nat} (holds : w.Holds d i) :
      ∃ t ∈ w.trees.map grow, t.id? = some d ∧ i ∈ t.numbers := by
    obtain ⟨t, mem, same, has⟩ := holds
    exact ⟨_, List.mem_map_of_mem mem, (growth.root t mem).trans same, growth.keeps t mem i has⟩
  have old (sound : w.Sound) {t : Node} (mem : t ∈ w.trees) {i : Nat} (has : i ∈ (grow t).numbers)
      (lt : i < w.nextId) : i ∈ t.numbers :=
    (growth.fresh t mem i has).resolve_right fun new => Nat.not_lt.mpr new.1 lt
  refine ⟨fun sound => ⟨?_, ?_, fun shown => kept (sound.shows shown)⟩, growth.next, kept,
    fun shown => ⟨_, shown, .inl rfl⟩⟩
  · intro t' mem i has
    obtain ⟨t, t_mem, rfl⟩ := List.mem_map.mp mem
    rcases growth.fresh t t_mem i has with old | new
    · exact Nat.lt_of_lt_of_le (sound.below t t_mem i old) growth.next
    · exact new.2
  · rw [List.pairwise_map]
    refine (sound.apart.and (growth.apart sound)).imp_of_mem
      fun {t u} t_mem u_mem ⟨apart, apart'⟩ i has has' => ?_
    rcases Nat.lt_or_ge i w.nextId with lt | ge
    · exact apart i (old sound t_mem has lt) (old sound u_mem has' lt)
    · exact apart' i has ge has'

/-- An element that is added at the end of another one is one such growth. -/
theorem growth_appendTo (w : StaticWorld) (parent : Nat) {new : Node} (numbers : new.numbers = [w.nextId]) :
    w.Growth (Node.appendTo parent new) (w.nextId + 1) where
  next := Nat.le_succ _
  root t _ := Node.id?_appendTo parent new t
  keeps t _ i has := (Node.mem_numbers_appendTo t).mpr (.inl has)
  fresh t _ i has := by
    rw [Node.mem_numbers_appendTo, numbers, List.mem_singleton] at has
    rcases has with old | ⟨-, rfl⟩
    · exact .inl old
    · exact .inr ⟨Nat.le_refl _, Nat.lt_succ_self _⟩
  apart sound := by
    refine sound.apart.imp_of_mem fun {t u} t_mem u_mem apart i has ge has' => ?_
    -- only a tree with the element to be added to gets anything new
    have above {t : Node} (mem : t ∈ w.trees) (has : i ∈ (Node.appendTo parent new t).numbers) :
        parent ∈ t.numbers := by
      rcases (Node.mem_numbers_appendTo t).mp has with old | ⟨above, -⟩
      · exact absurd (sound.below t mem i old) (Nat.not_lt.mpr ge)
      · exact above
    exact apart parent (above t_mem has) (above u_mem has')

theorem later_append {w w' : StaticWorld} {document : Nat} {e : NewElement}
    (done : w.append document e = .ok w') : Later w w' := by
  obtain rfl | ⟨parent, new, numbers, rfl⟩ := append_ok done
  · exact refl _
  · exact (growth_appendTo w parent numbers).later

theorem later_pass (seconds : Rat) (w : StaticWorld) : Later w (pass seconds w) :=
  pass_relates (fun _ _ _ => later_of_same rfl rfl rfl) later_append seconds w

/-- A parsed document is new, and does not touch the others. -/
theorem later_parse (w : StaticWorld) (markup : String) :
    Later w (w.parse markup).2 ∧ (w.Sound → (w.parse markup).2.Holds w.nextId w.nextId) := by
  obtain ⟨root, more, range⟩ := Html.parse_numbers markup w.nextId
  have kept {d i : Nat} (holds : w.Holds d i) : (w.parse markup).2.Holds d i := by
    obtain ⟨t, mem, same, has⟩ := holds
    exact ⟨t, List.mem_cons_of_mem _ mem, same, has⟩
  refine ⟨⟨fun sound => ⟨?_, ?_, fun shown => kept (sound.shows shown)⟩, Nat.le_of_lt more, kept,
    fun shown => ⟨_, shown, .inl rfl⟩⟩, fun _ => ?_⟩
  · intro t mem i has
    rcases List.mem_cons.mp mem with rfl | old
    · exact (range i has).2
    · exact Nat.lt_trans (sound.below t old i has) more
  · refine List.pairwise_cons.mpr ⟨fun u old i has has' => ?_, sound.apart⟩
    exact Nat.lt_irrefl _ (Nat.lt_of_lt_of_le (sound.below u old i has') (range i has).1)
  · exact ⟨_, List.mem_cons_self, root, Node.mem_numbers_of_id? root⟩

/-- After a document is parsed, every page shows what it showed, or the new document. -/
theorem later_of_shows {w w' : StaticWorld} {markup : String} (trees : w'.trees = (w.parse markup).2.trees)
    (next : w'.nextId = (w.parse markup).2.nextId)
    (shows : ∀ n, w'.documentOf (.page n) = w.documentOf (.page n) ∨
      w'.documentOf (.page n) = some w.nextId) : Later w w' := by
  obtain ⟨parsed, new⟩ := later_parse w markup
  have same {d i : Nat} : w'.Holds d i ↔ (w.parse markup).2.Holds d i := by rw [Holds, Holds, trees]
  constructor
  case sound =>
    intro sound
    refine ⟨?_, trees ▸ (parsed.sound sound).apart, fun {r d} shown => same.mpr ?_⟩
    · rw [trees, next]
      exact (parsed.sound sound).below
    · cases r with
      | nothing => cases shown
      | page n =>
        rcases shows n with old | put
        · exact parsed.holds (sound.shows (old ▸ shown))
        · cases put.symm.trans shown
          exact new sound
  case next => exact next ▸ parsed.next
  case holds => exact fun holds => same.mpr (parsed.holds holds)
  case pages =>
    intro r d shown
    cases r with
    | nothing => cases shown
    | page n =>
      rcases shows n with old | put
      · exact ⟨d, old.trans shown, .inl rfl⟩
      · exact ⟨_, put, .inr (Nat.le_refl _)⟩

theorem display_later (r : PageRef) (url markup : String) : Moves Later (display r url markup) := by
  intro w
  cases r with
  | nothing => exact (later_parse w markup).1
  | page n =>
    refine @later_of_shows w _ markup rfl rfl fun m => ?_
    have shows : ((display (.page n) url markup).runOn w).2.documentOf (.page m) =
        if n = m then (w.documentOf (.page m)).map fun _ => w.nextId else w.documentOf (.page m) := by
      show ((w.pages.modify n fun p => { p with url, document := w.nextId })[m]?).map _ = _
      rw [Array.getElem?_modify]
      split
      · simp [documentOf, Option.map_map, Function.comp_def]
      · rfl
    rw [shows]
    split
    · cases w.documentOf (.page m) with
      | none => exact .inl rfl
      | some d => exact .inr rfl
    · exact .inl rfl

theorem later_openPage (w : StaticWorld) (interceptors : List Interceptor) (intercepting : Bool) :
    Later w (w.openPage interceptors intercepting).2 := by
  refine @later_of_shows w _ "" rfl rfl fun m => ?_
  show ((w.pages.push { document := w.nextId, interceptors, intercepting })[m]?).map _ = _ ∨
    ((w.pages.push { document := w.nextId, interceptors, intercepting })[m]?).map _ = _
  rw [Array.getElem?_push]
  split
  · exact .inr rfl
  · exact .inl rfl

theorem navigateVia_later (t : Backend) (r : PageRef) (visit : Visit) : Moves Later (navigateVia t r visit) :=
  moves_navigate (fun w _ _ _ => later_pass _ w) (fun _ _ _ _ => later_of_same rfl rfl rfl) r (display_later r) visit

/-- A page that keeps its document can be changed at will. -/
theorem changePage_later (r : PageRef) (change : StaticPage → StaticPage)
    (same : ∀ p, (change p).document = p.document) : Moves Later (changePage r change) := by
  intro w
  cases r with
  | nothing => exact refl w
  | page n =>
    have shows (r : PageRef) : ((changePage (.page n) change).runOn w).2.documentOf r = w.documentOf r := by
      cases r with
      | nothing => rfl
      | page m =>
        show ((w.pages.modify n change)[m]?).map _ = _
        rw [Array.getElem?_modify]
        split
        · simp [documentOf, Option.map_map, Function.comp_def, same]
        · rfl
    refine ⟨fun sound => ⟨sound.below, sound.apart, fun shown => sound.shows (shows _ ▸ shown)⟩, Nat.le_refl _,
      id, fun {r d} shown => ⟨d, (shows r).trans shown, .inl rfl⟩⟩

end PageHarvest.StaticWorld
