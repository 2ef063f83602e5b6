import PageHarvest.Proofs.Html.Order
import PageHarvest.Proofs.Static.Documents
import PageHarvest.Proofs.Static.Waiting

/-!
Numbers of elements in worlds of static pages. Whatever a replay does, a number names one element: it
stands once in one tree, also when a callback has taken elements out of their documents.
-/
namespace PageHarvest.StaticWorld
open Act (Moves)
open Html (Node Place)

/-- No number is used twice, in one tree or in several, and all pages show documents that are there. -/
structure Numbered (w : StaticWorld) : Prop extends Sound w where
  distinct : ∀ t ∈ w.trees, t.numbers.Nodup

/-- Numbers stay without repetition. -/
def KeepsNumbers (w w' : StaticWorld) : Prop :=
  w.Numbered → w'.Numbered

instance : IsPreorder StaticWorld KeepsNumbers where
  refl _ := id
  trans _ _ _ first second := second ∘ first

theorem numbered_of_empty {w : StaticWorld} (trees : w.trees = []) (pages : w.pages = #[]) :
    Numbered w :=
  ⟨sound_of_empty trees pages, by rw [trees]; exact List.forall_mem_nil _⟩

theorem keepsNumbers_of_same {w w' : StaticWorld} (trees : w'.trees = w.trees)
    (pages : w'.pages = w.pages) (next : w'.nextId = w.nextId) : KeepsNumbers w w' :=
  fun numbered => ⟨(later_of_same trees pages next).sound numbered.toSound, trees ▸ numbered.distinct⟩

theorem keepsNumbers_append {w w' : StaticWorld} {document : Nat} {e : NewElement}
    (done : w.append document e = .ok w') : KeepsNumbers w w' := by
  intro numbered
  refine ⟨(later_append done).sound numbered.toSound, ?_⟩
  obtain rfl | ⟨parent, new, numbers, rfl⟩ := append_ok done
  · exact numbered.distinct
  · intro t' mem
    obtain ⟨t, t_mem, rfl⟩ := List.mem_map.mp mem
    refine Node.nodup_appendTo t (numbered.distinct t t_mem) ?_ ?_
    · rw [numbers]
      exact List.nodup_singleton _
    · rw [numbers, List.forall_mem_singleton]
      exact fun old => Nat.lt_irrefl _ (numbered.below t t_mem _ old)

/-- An element that is taken out of its tree becomes a tree. -/
theorem detach_ok {w w' : StaticWorld} {document : Nat} {selector : String}
    (done : w.detach document selector = .ok w') : w' = w ∨
    ∃ u ∈ w.trees, ∃ q ∈ Place.belowNode (.top u) u, ∃ id, q.id? = some id ∧
      w' = { w with trees := w.trees.map (·.without id) ++ [q.node] } := by
  unfold detach at done
  obtain ⟨pick, reading, done⟩ := bind_ok_iff.mp done
  dsimp only at done
  split at done
  · rename_i id tag attrs children found
    cases done
    obtain ⟨q, picked, node⟩ := Option.map_eq_some_iff.mp found
    obtain ⟨p, place, picked⟩ := Option.bind_eq_some_iff.mp picked
    obtain ⟨u, u_mem, search⟩ := List.exists_of_findSome?_eq_some place
    have inside := Css.engine_picksBelow reading p q (List.mem_of_head? picked)
    have below := Place.mem_belowNode_of_find? search inside
    exact .inr ⟨u, u_mem, q, below, id, congrArg Node.id? node, by rw [node]⟩
  · cases done
    exact .inl rfl

/-- Nothing that is taken out stays anywhere: only the tree that it came from could have it. -/
theorem Numbered.not_mem_taken {w : StaticWorld} (numbered : w.Numbered) {u t : Node} {q : Place} {id : Nat}
    (u_mem : u ∈ w.trees) (t_mem : t ∈ w.trees) (below : q ∈ Place.belowNode (.top u) u)
    (named : q.id? = some id) : ∀ i ∈ (t.without id).numbers, i ∉ q.node.numbers := by
  intro i left taken
  have inner := (Place.numbers_sublist_of_mem_belowNode u below).subset taken
  cases numbered.tree_unique t_mem u_mem (t.numbers_without_sublist.subset left) inner
  have distinct := numbered.distinct u u_mem
  have other := Place.id?_ne_of_mem_belowNode u distinct below named
  obtain ⟨apart, outside⟩ := u.not_mem_without distinct other left
  rcases (Node.mem_numbers_iff named).mp taken with same | within
  · exact apart same
  · exact outside (Place.inside_of_mem_belowNode u distinct below named ▸ within)

theorem keepsNumbers_detach {w w' : StaticWorld} {document : Nat} {selector : String}
    (done : w.detach document selector = .ok w') : KeepsNumbers w w' := by
  intro numbered
  obtain rfl | ⟨u, u_mem, q, below, id, named, rfl⟩ := detach_ok done
  · exact numbered
  have inner := Place.numbers_sublist_of_mem_belowNode u below
  constructor
  case toSound =>
    refine ⟨fun t mem i has => ?_, ?_, fun {r d} shown => ?_⟩
    · rcases List.mem_append.mp mem with left | taken
      · obtain ⟨t, t_mem, rfl⟩ := List.mem_map.mp left
        exact numbered.below t t_mem i (t.numbers_without_sublist.subset has)
      · cases List.mem_singleton.mp taken
        exact numbered.below u u_mem i (inner.subset has)
    · refine List.pairwise_append.mpr ⟨?_, List.pairwise_singleton _ _, fun t' left u' taken => ?_⟩
      · rw [List.pairwise_map]
        refine numbered.apart.imp fun {t t'} apart i has has' => ?_
        exact apart i (t.numbers_without_sublist.subset has) (t'.numbers_without_sublist.subset has')
      · obtain ⟨t, t_mem, rfl⟩ := List.mem_map.mp left
        cases List.mem_singleton.mp taken
        exact numbered.not_mem_taken u_mem t_mem below named
    · obtain ⟨t, t_mem, top, -⟩ := numbered.shows shown
      have top : (t.without id).id? = some d := by rw [Node.id?_without, top]
      exact ⟨_, List.mem_append_left _ (List.mem_map_of_mem t_mem), top, Node.mem_numbers_of_id? top⟩
  case distinct =>
    intro t mem
    rcases List.mem_append.mp mem with left | taken
    · obtain ⟨t, t_mem, rfl⟩ := List.mem_map.mp left
      exact t.numbers_without_sublist.nodup (numbered.distinct t t_mem)
    · cases List.mem_singleton.mp taken
      exact inner.nodup (numbered.distinct u u_mem)

theorem keepsNumbers_pass (seconds : Rat) (w : StaticWorld) : KeepsNumbers w (pass seconds w) :=
  pass_relates (fun _ _ _ => keepsNumbers_of_same rfl rfl rfl) keepsNumbers_append seconds w

theorem distinct_parse {w : StaticWorld} (numbered : w.Numbered) (markup : String) :
    ∀ t ∈ (w.parse markup).2.trees, t.numbers.Nodup :=
  List.forall_mem_cons.mpr ⟨Html.nodup_parse markup w.nextId, numbered.distinct⟩

theorem keepsNumbers_display (r : PageRef) (url markup : String) : Moves KeepsNumbers (display r url markup) := by
  intro w numbered
  refine ⟨(display_later r url markup w).sound numbered.toSound, ?_⟩
  cases r <;> exact distinct_parse numbered markup

theorem keepsNumbers_openPage (w : StaticWorld) (interceptors : List Interceptor) (intercepting : Bool) :
    KeepsNumbers w (w.openPage interceptors intercepting).2 :=
  fun numbered => ⟨(later_openPage w interceptors intercepting).sound numbered.toSound,
    distinct_parse numbered ""⟩

theorem keepsNumbers_noted (w : StaticWorld) (requests handled log seen) :
    KeepsNumbers w { w with requests, handled, log, seen } :=
  keepsNumbers_of_same rfl rfl rfl

theorem keepsNumbers_navigate (t : Backend) (r : PageRef) (visit : Visit) :
    Moves KeepsNumbers (navigateVia t r visit) :=
  moves_navigate (fun w _ _ _ => keepsNumbers_pass _ w) (fun w _ _ _ => keepsNumbers_noted w _ _ _ w.seen) r
    (keepsNumbers_display r) visit

theorem keepsNumbers_call (t : Backend) (c : Callback) (r : PageRef) (items : List Item) :
    Moves KeepsNumbers (callVia t c r items) :=
  moves_callVia t (keepsNumbers_navigate t) (fun w => keepsNumbers_openPage w [] false)
    (fun w seen => keepsNumbers_noted w _ _ _ seen) keepsNumbers_append
    (fun _ _ => keepsNumbers_detach) r items

/-- Everything that a replay on static pages does keeps numbers from being used twice. -/
theorem hostVia_keepsNumbers (t : Backend) : Replay.HostMoves KeepsNumbers (hostVia t) :=
  { (hostVia_serves t).reads keepsNumbers_pass fun w log => keepsNumbers_noted w _ _ log _ with
    navigate := keepsNumbers_navigate t
    call := keepsNumbers_call t }

end PageHarvest.StaticWorld
