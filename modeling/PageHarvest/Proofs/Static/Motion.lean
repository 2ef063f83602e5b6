import PageHarvest.Proofs.Failure
import PageHarvest.Proofs.Replay.Remaining
import PageHarvest.Proofs.Replay.Watching
import PageHarvest.Static.Page

/-!
Operations of static pages by what they do to the world. Searches and reads change nothing, waiting
only lets time pass, and a visit puts up one document besides.
-/
namespace PageHarvest.StaticWorld
open Act (Moves)
variable {R : StaticWorld → StaticWorld → Prop} [IsPreorder StaticWorld R]

theorem moves_page (r : PageRef) : Moves R (page r) := by
  cases r with
  | nothing => exact .fail _
  | page n =>
    refine .bind .get fun w => ?_
    split
    · exact .pure _
    · exact .fail _

theorem moves_rootOf (r : PageRef) (root : Option Nat) : Moves R (rootOf r root) :=
  .bind (moves_page r) fun _ => .pure _

section Reading
variable (engine : Css.Engine)

theorem moves_glance (r : PageRef) (selector : String) (root : Option Nat) :
    Moves R (glance engine r selector root) :=
  .bind (moves_rootOf r root) fun _ => .bind (.ofExcept _) fun _ => .bind .get fun _ => .pure _

theorem moves_queryAll (r : PageRef) (selector : String) (root : Option Nat) :
    Moves R (queryAll engine r selector root) :=
  .bind (moves_rootOf r root) fun _ => .bind (.ofExcept _) fun _ => .bind .get fun _ => .pure _

theorem moves_extract (r : PageRef) (root : Option Nat) (selector : String) (attr : Option String) :
    Moves R (extract engine r root selector attr) := by
  refine .bind (moves_page r) fun p => .bind (.ofExcept _) fun s => .bind .get fun w => ?_
  dsimp only
  split
  · exact .pure _
  · exact .pure _
  · split
    · exact .pure _
    · exact .bind (.ofExcept _) fun _ => .pure _

end Reading

theorem edits_of_append {w w' : StaticWorld} {document : Nat} {e : NewElement}
    (done : w.append document e = .ok w') : ∃ trees nextId, w' = { w with trees, nextId } := by
  unfold append at done
  obtain ⟨s, -, done⟩ := bind_ok_iff.mp done
  split at done
  · cases done
    exact ⟨_, _, rfl⟩
  · cases done
    exact ⟨_, _, rfl⟩

theorem edits_of_detach {w w' : StaticWorld} {document : Nat} {selector : String}
    (done : w.detach document selector = .ok w') : ∃ trees nextId, w' = { w with trees, nextId } := by
  unfold detach at done
  obtain ⟨s, -, done⟩ := bind_ok_iff.mp done
  dsimp only at done
  split at done
  · cases done
    exact ⟨_, _, rfl⟩
  · cases done
    exact ⟨_, _, rfl⟩

/-- What arrives has been announced. -/
theorem arrive_relates (announced : ∀ w arrivals, R w { w with arrivals })
    (adds : ∀ {w w' document e}, append w document e = .ok w' → R w w') (w : StaticWorld) : R w w.arrive := by
  have placed (as : List Arrival) (w : StaticWorld) : R w (as.foldl
      (fun w a => (w.append w.firstDocument a.element).toOption.getD w) w) := by
    induction as generalizing w with
    | nil => exact refl w
    | cons a rest ih =>
      refine IsTrans.trans _ _ _ ?_ (ih _)
      dsimp only
      cases done : w.append w.firstDocument a.element with
      | error f => exact refl w
      | ok w' => exact adds done
  exact IsTrans.trans _ _ _ (announced w _) (placed _ _)

/-- What passing time does is done by the clock and by elements that come up. -/
theorem pass_relates (ticks : ∀ w now arrivals, R w { w with now, arrivals })
    (adds : ∀ {w w' document e}, append w document e = .ok w' → R w w') (seconds : Rat) (w : StaticWorld) :
    R w (pass seconds w) :=
  IsTrans.trans _ _ _ (ticks w _ _) (arrive_relates (fun w arrivals => ticks w w.now arrivals) adds _)

/-- What is left of sending a request when it is on its way. -/
def receive (t : Backend) (q : PageRequest) : Act StaticWorld SitePage := do
  let answer := t.client (← get).site q
  match answer.latencyMs with
  | some ms => modify (pass (precision.near (ms / 1000)))
  | none => pure ()
  match answer.failure with
  | some f => Act.fail f
  | none => return answer

theorem send_eq_receive (t : Backend) (q : PageRequest) : send t q = (do
    modify fun w => { w with requests := q :: w.requests }
    receive t q) := rfl

/-- An answer that takes time is one that the site lists. -/
theorem exists_of_latency {site : Site} {url : String} {ms : Rat} (late : (site.page url).latencyMs = some ms) :
    ∃ e ∈ site, e.2.latencyMs = some ms := by
  unfold Site.page Table.get? at late
  cases found : site.find? fun e => e.1 == url with
  | none =>
    rw [found] at late
    cases late
  | some e =>
    rw [found] at late
    exact ⟨e, List.mem_of_find?_eq_some found, late⟩

/-- Waits let no time pass but forward. -/
theorem moves_await (forward : ∀ seconds w, 0 ≤ seconds → R w (pass seconds w)) (t : Backend) (r : PageRef)
    (selector : String) (timeoutMs : Int) (root : Option Nat) : Moves R (await t r selector timeoutMs root) :=
  .bind (moves_page r) fun _ => .bind .get fun _ => Watch.moves_await (moves_glance t.engine r selector root)
    forward (fun _ => Precision.interval_nonneg) _ _

section Time
variable {t : Backend} (delays : ∀ w q ms, (t.client w.site q).latencyMs = some ms →
  R w (pass (precision.near (ms / 1000)) w))
include delays

theorem moves_receive (q : PageRequest) : Moves R (receive t q) := by
  intro w
  have delayed := delays w q
  unfold receive
  rw [Act.runOn_bind, Act.runOn_get]
  dsimp only
  cases latency : (t.client w.site q).latencyMs with
  | none => cases (t.client w.site q).failure <;> exact refl w
  | some ms => cases (t.client w.site q).failure <;> exact delayed ms latency

variable (notes : ∀ w requests handled log, R w { w with requests, handled, log })
include notes

theorem moves_send (q : PageRequest) : Moves R (send t q) := by
  rw [send_eq_receive]
  exact .bind (.modify fun w => notes w _ _ _) fun _ => moves_receive delays q

theorem moves_fetch (p : StaticPage) (q : PageRequest) : Moves R (fetch t p q) := by
  have sent := Moves.bind (moves_send delays notes q) fun a =>
    Moves.pure (R := R) (a.status, a.url.getD q.url, a.markup)
  rw [fetch]
  dsimp only
  split
  · refine .bind (.bind (.modify fun w => notes w _ _ _) fun _ => .ofExcept _) fun made => ?_
    split
    · exact .pure _
    · exact sent
  · exact sent

omit [IsPreorder StaticWorld R] delays in
theorem moves_reportVisit (q : PageRequest) (status : Int) : Moves R (reportVisit q status) := by
  refine .modify fun w => ?_
  split
  · exact notes w _ _ _
  · exact notes w _ _ _

/-- Besides putting up a document, a visit passes the time that the site takes, and takes notes. -/
theorem moves_navigate (r : PageRef)
    (displays : ∀ url markup, Moves R (display r url markup)) (visit : Visit) :
    Moves R (navigateVia t r visit) := by
  refine .bind (moves_page r) fun p => ?_
  split
  · exact .bind (displays _ _) fun _ => .pure _
  · exact .bind (moves_fetch delays notes p _) fun a => .bind (displays _ _) fun _ =>
      .bind (moves_reportVisit notes _ _) fun _ => .pure _

end Time

/-- Scripted callbacks visit and open pages, add elements and take elements out. -/
theorem moves_callVia (t : Backend) (visits : ∀ r visit, Moves R (navigateVia t r visit))
    (opens : ∀ w, R w (openPage w [] false).2) (sees : ∀ w seen, R w { w with seen })
    (adds : ∀ {w w' document e}, append w document e = .ok w' → R w w') {c : Callback}
    (takes : ∀ selector, c = .remove selector → ∀ {w w' document},
      detach w document selector = .ok w' → R w w') (r : PageRef) (items : List Item) :
    Moves R (callVia t c r items) := by
  have visit (r : PageRef) (url : String) : Moves R ((toolsVia t).visit r url) :=
    .bind (visits r _) fun _ => .pure _
  refine .bind (.modify fun w => sees w _) fun _ => ?_
  cases c with
  | append element => exact .bind (.bind (moves_page r) fun _ => .update adds) fun _ => .pure _
  | remove selector =>
    exact .bind (.bind (moves_page r) fun _ => .update (takes selector rfl)) fun _ => .pure _
  | goto url => exact .bind (visit r url) fun _ => .pure _
  | newPage url =>
    have fresh : Moves R (toolsVia t).fresh := opens
    refine .bind fresh fun new => ?_
    cases url with
    | none => exact .pure _
    | some url => exact .bind (visit new url) fun _ => .pure _
  | evaluate source => exact .bind (.bind (moves_page r) fun _ => .fail _) fun _ => .pure _
  | editFirst => exact .bind (.ofExcept _) fun _ => .pure _
  | raise f => exact .fail f
  | _ => exact .pure _

end PageHarvest.StaticWorld
