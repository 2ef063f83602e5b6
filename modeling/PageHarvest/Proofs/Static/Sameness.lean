import PageHarvest.Proofs.Css.Engine
import PageHarvest.Proofs.Html.Numbering
import PageHarvest.Proofs.Static.Waiting

/-!
Drivers that show the same document. Its elements may be numbered otherwise in each of them; whatever
else a replay asks for is told by the document and by what answers requests, and not by what came before.
-/
namespace PageHarvest

/-- Answers of a site come within a time that clocks can show. -/
def Backend.Timely (t : Backend) (site : Site) : Prop :=
  ∀ q ms, (t.client site q).latencyMs = some ms → |ms| ≤ Binary64.twoPow 840

/-- What makes a backend answer alike whatever its drivers have been through: clocks can show how long it takes,
the engine picks elements below a place whatever their numbers, and nothing gets in the way of waits. -/
structure Backend.Uniform (t : Backend) (site : Site) (pollMs pageMs : Int) : Prop extends
    t.Calm pollMs pageMs where
  timely : t.Timely site
  below : t.engine.PicksBelow
  ignores : t.engine.IgnoresNumbers

theorem Backend.uniform_reacting {c : Reaction} {client : Site → PageRequest → SitePage} {site : Site}
    (timely : (Backend.reacting c client).Timely site) (pollMs pageMs : Int) :
    (Backend.reacting c client).Uniform site pollMs pageMs :=
  ⟨Backend.calm_reacting c client pollMs pageMs, timely, Css.engine_picksBelow, Css.engine_ignoresNumbers⟩

namespace StaticWorld
open Html (Node Place)
open Precision (Timely)

/-- What drivers are made with. -/
structure Setting where
  site : Site
  interceptors : List Interceptor
  intercepting : Bool
  pollIntervalMs : Int

def pageAt (w : StaticWorld) : PageRef → Option StaticPage
  | .page n => w.pages[n]?
  | .nothing => none

/-- A driver, in any state, whose documents do not change with time. -/
structure Driver (u : Setting) (w : StaticWorld) (r : PageRef) : Prop where
  page : ∃ p, w.pageAt r = some p ∧ p.interceptors = u.interceptors ∧ p.intercepting = u.intercepting
  site : w.site = u.site
  poll : w.pollIntervalMs = u.pollIntervalMs
  quiet : w.arrivals = []
  timely : Timely w.now

/-- A page shows a document of the numbers from `first` on, at an address. -/
structure Shows (w : StaticWorld) (r : PageRef) (tree : Node) (url : String) (first : Nat) : Prop where
  page : ∃ p, w.pageAt r = some p ∧ p.url = url ∧ p.document = first
  tree : ∃ others, w.trees = tree.renumber (· + first) :: others

theorem add_injective (n : Nat) : Function.Injective (· + n) :=
  fun _ _ => Nat.add_right_cancel

theorem pageAt_congr {w w' : StaticWorld} (same : w'.pages = w.pages) (r : PageRef) :
    w'.pageAt r = w.pageAt r := by
  cases r with
  | nothing => rfl
  | page n => exact congrArg (·[n]?) same

theorem page_runOn {w : StaticWorld} {r : PageRef} {p : StaticPage} (here : w.pageAt r = some p) :
    (page r).runOn w = (.ok p, w) := by
  cases r with
  | nothing => cases here
  | page n =>
    unfold pageAt at here
    simp only [page, Act.runOn_bind, Act.runOn_get, here, Act.runOn_pure]

section Reading
variable (engine : Css.Engine) {w : StaticWorld} {r : PageRef} {p : StaticPage} (here : w.pageAt r = some p)
include here

theorem queryAll_runOn (selector : String) (root : Option Nat) :
    (queryAll engine r selector root).runOn w = ((engine selector).map fun pick =>
      ((w.place? (root.getD p.document)).map fun q => (pick q).filterMap Place.id?).getD [], w) := by
  simp only [queryAll, Act.runOn_bind, rootOf_runOn, page_runOn here, Except.map]
  cases engine selector with
  | error f => rfl
  | ok s => rfl

omit here in
/-- What a field below a place comes to, on a page at `url`. -/
def extracted (url : String) (start : Option Place) (selector : String) (attr : Option String) :
    Except Failure (Option String) := do
  let pick ← engine selector
  match start.bind fun q => (pick q).head?, attr with
  | none, _ => return none
  | some q, none => return some (Text.strip q.node.shownText)
  | some q, some name =>
    match q.node.attr? name with
    | none => return none
    | some v => return some (← attrValue url name v)

theorem extract_runOn (root : Option Nat) (selector : String) (attr : Option String) :
    (extract engine r root selector attr).runOn w =
      (extracted engine p.url (w.place? (root.getD p.document)) selector attr, w) := by
  unfold extracted
  simp only [extract, Act.runOn_bind, page_runOn here]
  cases engine selector with
  | error f => rfl
  | ok pick =>
    have read_ok (next : (Place → List Place) → Except Failure (Option String)) :
        (.ok pick >>= next) = next pick := rfl
    simp only [Act.runOn_ofExcept, Act.runOn_get, read_ok]
    cases (w.place? (root.getD p.document)).bind fun q => (pick q).head? with
    | none => rfl
    | some q =>
      cases attr with
      | none => rfl
      | some name =>
        dsimp only
        cases q.node.attr? name with
        | none => rfl
        | some v =>
          dsimp only
          rw [Act.runOn_bind, Act.runOn_ofExcept]
          cases attrValue p.url name v with
          | error f => rfl
          | ok s => rfl

theorem searched_eq (selector : String) (root : Option Nat) :
    searched engine w r selector root = (do
      let _ ← Precision.double.seconds (max w.pollIntervalMs 1)
      let pick ← engine selector
      return w.first? pick (root.getD p.document)) := by
  unfold searched paced glanced
  rw [page_runOn here]
  cases Precision.double.seconds (max w.pollIntervalMs 1) with
  | error f => rfl
  | ok interval =>
    cases engine selector with
    | error f => rfl
    | ok s => rfl

end Reading

section Renumbering
variable {engine : Css.Engine} (uniform : engine.IgnoresNumbers) {f : Nat → Nat} (apart : Function.Injective f)
include uniform apart

theorem extracted_renumber (url : String) (start : Place) (selector : String) (attr : Option String) :
    extracted engine url (some (start.renumber f)) selector attr =
      extracted engine url (some start) selector attr := by
  unfold extracted
  cases reading : engine selector with
  | error e => rfl
  | ok pick =>
    dsimp only [bind, Except.bind, Option.bind_some]
    rw [uniform reading apart, List.head?_map]
    cases (pick start).head? with
    | none => rfl
    | some q =>
      cases attr with
      | none =>
        dsimp only [Option.map_some]
        rw [Place.node_renumber, Node.shownText_renumber]
      | some name =>
        dsimp only [Option.map_some]
        rw [Place.node_renumber, Node.attr?_renumber]

theorem picked_renumber {selector : String} {pick : Place → List Place} (reading : engine selector = .ok pick)
    (start : Place) : (pick (start.renumber f)).filterMap Place.id? =
      ((pick start).filterMap Place.id?).map f := by
  rw [uniform reading apart, List.filterMap_map, List.map_filterMap]
  exact List.filterMap_congr fun q _ => q.id?_renumber f

end Renumbering

namespace Shows
variable {w : StaticWorld} {r : PageRef} {tree : Node} {url : String} {first : Nat}
  (shows : Shows w r tree url first)
include shows

theorem place? {j : Nat} {q : Place} (found : (Place.top tree).find? j = some q) :
    w.place? (j + first) = some (q.renumber (· + first)) := by
  obtain ⟨others, trees⟩ := shows.tree
  have here : (Place.top (tree.renumber (· + first))).find? (j + first) =
      some (q.renumber (· + first)) := by
    have moved := Place.find?_renumber (add_injective first) (Place.top tree) j
    rw [found] at moved
    exact moved
  unfold StaticWorld.place?
  rw [trees, List.findSome?_cons, here]

section Engines
variable {engine : Css.Engine} (uniform : engine.IgnoresNumbers)
include uniform

theorem queryAll_runOn {root : Option Nat} {j : Nat} (start : root.getD first = j + first) {q : Place}
    (found : (Place.top tree).find? j = some q) (selector : String) :
    (queryAll engine r selector root).runOn w = ((engine selector).map fun pick =>
      ((pick q).filterMap Place.id?).map (· + first), w) := by
  obtain ⟨p, here, -, rfl⟩ := shows.page
  rw [StaticWorld.queryAll_runOn engine here, start, shows.place? found]
  cases reading : engine selector with
  | error f => rfl
  | ok pick =>
    have picked := picked_renumber uniform (add_injective p.document) reading q
    simp only [Except.map, Option.map_some, Option.getD_some, picked]

theorem extract_runOn {root : Option Nat} {j : Nat} (start : root.getD first = j + first) {q : Place}
    (found : (Place.top tree).find? j = some q) (selector : String) (attr : Option String) :
    (extract engine r root selector attr).runOn w = (extracted engine url (some q) selector attr, w) := by
  obtain ⟨p, here, rfl, rfl⟩ := shows.page
  rw [StaticWorld.extract_runOn engine here, start, shows.place? found,
    extracted_renumber uniform (add_injective p.document)]

theorem searched_isSome {root : Option Nat} {j : Nat} (start : root.getD first = j + first) {q : Place}
    (found : (Place.top tree).find? j = some q) (selector : String) :
    (searched engine w r selector root).map Option.isSome = (do
      let _ ← Precision.double.seconds (max w.pollIntervalMs 1)
      let pick ← engine selector
      return ((pick q).head?.bind Place.id?).isSome) := by
  obtain ⟨p, here, -, rfl⟩ := shows.page
  rw [searched_eq engine here]
  cases Precision.double.seconds (max w.pollIntervalMs 1) with
  | error f => rfl
  | ok interval =>
    cases reading : engine selector with
    | error f => rfl
    | ok pick =>
      have ok_bind {α β : Type} (x : α) (next : α → Except Failure β) : (.ok x >>= next) = next x := rfl
      simp only [ok_bind, first?, start, shows.place? found, Option.bind_some,
        uniform reading (add_injective p.document), List.head?_map]
      cases (pick q).head? with
      | none => rfl
      | some x =>
        simp only [Option.map_some, Option.bind_some, Place.id?_renumber, pure, Except.pure, Except.map,
          Option.isSome_map]

end Engines
end Shows

theorem attended_congr (engine : Css.Engine) {w w' : StaticWorld} {r r' : PageRef} {selector : String}
    {root root' : Option Nat} (same : (searched engine w r selector root).map Option.isSome =
      (searched engine w' r' selector root').map Option.isSome) (d : Defaults) (timeoutMs : Int) (span : Rat) :
    attended engine w d r selector timeoutMs span root =
      attended engine w' d r' selector timeoutMs span root' := by
  have decided (w : StaticWorld) (r : PageRef) (root : Option Nat) :
      attended engine w d r selector timeoutMs span root = (do
        let _ ← Precision.double.seconds (max d.pollIntervalMs 1)
        let _ ← Precision.double.milliseconds span
        let there ← (searched engine w r selector root).map Option.isSome
        if there then .ok ⟨⟩ else .error (Cause.selectorTimeout (.text selector) (.int timeoutMs))) := by
    unfold attended
    cases searched engine w r selector root with
    | error f => rfl
    | ok out => cases out <;> rfl
  rw [decided, decided, same]

/-- What two drivers show: a document whose elements are numbered from different numbers on. -/
structure Content where
  tree : Node
  root : tree.id? = some 0
  url : String
  first : Nat
  first' : Nat

def Content.handle (k : Content) (i i' : Nat) : Prop :=
  ∃ j ∈ k.tree.numbers, i = j + k.first ∧ i' = j + k.first'

/-- The element that two roots stand for. -/
theorem Content.start {k : Content} {root root' : Option Nat} (same : Option.Rel k.handle root root') :
    ∃ j q, (Place.top k.tree).find? j = some q ∧ root.getD k.first = j + k.first ∧
      root'.getD k.first' = j + k.first' := by
  obtain ⟨j, mem, here, here'⟩ : ∃ j ∈ k.tree.numbers, root.getD k.first = j + k.first ∧
      root'.getD k.first' = j + k.first' := by
    cases same with
    | none => exact ⟨0, Node.mem_numbers_of_id? k.root, (Nat.zero_add _).symm, (Nat.zero_add _).symm⟩
    | some handles =>
      obtain ⟨j, mem, rfl, rfl⟩ := handles
      exact ⟨j, mem, rfl, rfl⟩
  obtain ⟨q, found⟩ := Place.exists_find? mem
  exact ⟨j, q, found, here, here'⟩

theorem Content.mem_picked {engine : Css.Engine} (picksBelow : engine.PicksBelow) {selector : String}
    {pick : Place → List Place} (reading : engine selector = .ok pick) {k : Content} {j : Nat} {q : Place}
    (found : (Place.top k.tree).find? j = some q) {i : Nat} (mem : i ∈ (pick q).filterMap Place.id?) :
    i ∈ k.tree.numbers := by
  obtain ⟨x, selected, numbered⟩ := List.mem_filterMap.mp mem
  have below := Place.numbers_of_mem_descendants (picksBelow reading q x selected)
    (Node.mem_numbers_of_id? numbered)
  exact (Place.numbers_of_find? found).2 i below

/-- Two worlds have had the same requests sent and intercepted since `base` and `base'`. -/
structure Aligned (base base' w w' : StaticWorld) : Prop where
  requests : ∃ sent, w.requests = sent ++ base.requests ∧ w'.requests = sent ++ base'.requests
  handled : ∃ asked, w.handled = asked ++ base.handled ∧ w'.handled = asked ++ base'.handled

/-- Two drivers with the same setting, after the same requests. -/
structure Ready (u : Setting) (r r' : PageRef) (base base' w w' : StaticWorld) : Prop where
  driver : Driver u w r
  driver' : Driver u w' r'
  aligned : Aligned base base' w w'

/-- Two drivers that show the same document besides. -/
structure Showing (u : Setting) (r r' : PageRef) (base base' : StaticWorld) (k : Content)
    (w w' : StaticWorld) : Prop where
  ready : Ready u r r' base base' w w'
  shows : Shows w r k.tree k.url k.first
  shows' : Shows w' r' k.tree k.url k.first'

theorem Aligned.offline {base base' w w' v v' : StaticWorld} (aligned : Aligned base base' w w')
    (quiet : Offline w v) (quiet' : Offline w' v') : Aligned base base' v v' := by
  obtain ⟨⟨sent, requests, requests'⟩, ⟨asked, handled, handled'⟩⟩ := aligned
  exact ⟨⟨sent, quiet.1.trans requests, quiet'.1.trans requests'⟩,
    ⟨asked, quiet.2.trans handled, quiet'.2.trans handled'⟩⟩

section Visits
variable {t : Backend} {u : Setting} {r r' : PageRef} {base base' w w' : StaticWorld}

theorem Driver.noted (driver : Driver u w r) (requests handled : List PageRequest) (log : List Event) :
    Driver u { w with requests, handled, log } r :=
  ⟨driver.page, driver.site, driver.poll, driver.quiet, driver.timely⟩

theorem Ready.intercepted (ready : Ready u r r' base base' w w') (asked : List PageRequest) :
    Ready u r r' base base' { w with handled := asked ++ w.handled }
      { w' with handled := asked ++ w'.handled } := by
  obtain ⟨sent, before, handled, handled'⟩ := ready.aligned
  refine ⟨ready.driver.noted _ _ _, ready.driver'.noted _ _ _, ⟨sent, asked ++ before, ?_, ?_⟩⟩
  · rw [List.append_assoc, ← handled]
  · rw [List.append_assoc, ← handled']

theorem Ready.sent (ready : Ready u r r' base base' w w') (q : PageRequest) :
    Ready u r r' base base' { w with requests := q :: w.requests }
      { w' with requests := q :: w'.requests } := by
  obtain ⟨⟨sent, requests, requests'⟩, handled⟩ := ready.aligned
  refine ⟨ready.driver.noted _ _ _, ready.driver'.noted _ _ _, ⟨q :: sent, ?_, ?_⟩, handled⟩
  · rw [List.cons_append, ← requests]
  · rw [List.cons_append, ← requests']

theorem Driver.pass (driver : Driver u w r) {span : Rat} (short : |span| ≤ Binary64.twoPow 840) :
    Driver u (pass span w) r := by
  rw [pass_of_quiet driver.quiet]
  exact ⟨driver.page, driver.site, driver.poll, driver.quiet, driver.timely.pass short⟩

theorem Ready.passed (ready : Ready u r r' base base' w w') {span : Rat}
    (short : |span| ≤ Binary64.twoPow 840) :
    Ready u r r' base base' (pass span w) (pass span w') := by
  refine ⟨ready.driver.pass short, ready.driver'.pass short, ready.aligned.offline ?_ ?_⟩
  · rw [pass_of_quiet ready.driver.quiet]
    exact ⟨rfl, rfl⟩
  · rw [pass_of_quiet ready.driver'.quiet]
    exact ⟨rfl, rfl⟩

/-- Two actions that keep drivers ready and answer the same. -/
abbrev Agree {α : Type} (u : Setting) (r r' : PageRef) (base base' : StaticWorld) :
    Act StaticWorld α → Act StaticWorld α → Prop :=
  Act.Alike (Aligned base base') (Ready u r r' base base') fun a a' w w' =>
    a = a' ∧ Ready u r r' base base' w w'

theorem Agree.pure {α : Type} (x : α) : Agree u r r' base base' (pure x) (pure x) :=
  Act.Alike.pure fun ready => ⟨rfl, ready⟩

theorem Agree.ofExcept {α : Type} (out : Except Failure α) :
    Agree u r r' base base' (Act.ofExcept out) (Act.ofExcept out) := by
  intro w w' ready
  cases out with
  | error f => exact .failed ready.aligned
  | ok a => exact .done ⟨rfl, ready⟩

theorem Agree.modify {f : StaticWorld → StaticWorld}
    (kept : ∀ {w w'}, Ready u r r' base base' w w' → Ready u r r' base base' (f w) (f w')) :
    Agree u r r' base base' (modify f) (modify f) :=
  fun _ _ ready => .done ⟨rfl, kept ready⟩

theorem Agree.bind {α β : Type} {a a' : Act StaticWorld α} {g g' : α → Act StaticWorld β}
    (first : Agree u r r' base base' a a') (next : ∀ x, Agree u r r' base base' (g x) (g' x)) :
    Agree u r r' base base' (a >>= g) (a' >>= g') := by
  refine Act.Alike.bind first ?_
  rintro x _ w w' ⟨rfl, ready⟩
  exact next x w w' ready

theorem send_agree (timely : t.Timely u.site) (q : PageRequest) :
    Agree u r r' base base' (send t q) (send t q) := by
  refine (Agree.modify (Ready.sent · q)).bind fun _ => ?_
  intro w w' ready
  simp only [Act.runOn_bind, Act.runOn_get, ready.driver.site, ready.driver'.site]
  have latency := timely q
  generalize t.client u.site q = answer at latency ⊢
  cases late : answer.latencyMs with
  | none =>
    dsimp only
    cases answer.failure with
    | some f => exact .failed ready.aligned
    | none => exact .done ⟨rfl, ready⟩
  | some ms =>
    have short : |precision.near (ms / 1000)| ≤ Binary64.twoPow 840 := by
      have less : |ms / 1000| ≤ |ms| := by
        rw [abs_div, abs_of_pos (show (0 : Rat) < 1000 by norm_num)]
        exact div_le_self (abs_nonneg ms) (by norm_num)
      exact Precision.abs_near_le (by decide) (by decide) (le_trans less (latency ms late))
    dsimp only
    rw [Act.runOn_bind, Act.runOn_bind, Act.runOn_modify, Act.runOn_modify]
    dsimp only
    cases answer.failure with
    | some f => exact .failed (ready.passed short).aligned
    | none => exact .done ⟨rfl, ready.passed short⟩

theorem intercept_agree (q : PageRequest) :
    Agree u r r' base base' (intercept t q u.interceptors) (intercept t q u.interceptors) :=
  (Agree.modify (Ready.intercepted · _)).bind fun _ => .ofExcept _

theorem fetch_agree (timely : t.Timely u.site) {p p' : StaticPage}
    (interceptors : p.interceptors = u.interceptors) (interceptors' : p'.interceptors = u.interceptors)
    (intercepting : p.intercepting = u.intercepting) (intercepting' : p'.intercepting = u.intercepting)
    (q : PageRequest) : Agree u r r' base base' (fetch t p q) (fetch t p' q) := by
  unfold fetch
  rw [interceptors, interceptors', intercepting, intercepting']
  dsimp only
  split
  · refine (intercept_agree q).bind fun made => ?_
    cases made with
    | some m => exact .pure _
    | none => exact (send_agree timely q).bind fun _ => .pure _
  · exact (send_agree timely q).bind fun _ => .pure _

/-- A document with elements numbered from the next free number on, in terms of that from zero on. -/
theorem parsed_tree (markup : String) (first : Nat) :
    (Html.parse markup first).1 = (Html.parse markup 0).1.renumber (· + first) :=
  congrArg Prod.fst (Html.parse_renumber markup first)

/-- Markup that is put up is shown, with its elements numbered from the next free number on. -/
theorem display_runOn {p : StaticPage} (here : w.pageAt r = some p) (url markup : String) :
    ∃ trees nextId pages, (display r url markup).runOn w = (.ok ⟨⟩, { w with trees, nextId, pages }) ∧
      pageAt { w with trees, nextId, pages } r = some { p with url, document := w.nextId } ∧
      Shows { w with trees, nextId, pages } r (Html.parse markup 0).1 url w.nextId := by
  cases r with
  | nothing => cases here
  | page n =>
    have shown : (w.pages.modify n fun p => { p with url, document := w.nextId })[n]? =
        some { p with url, document := w.nextId } := by
      have entry : w.pages[n]? = some p := here
      rw [Array.getElem?_modify, if_pos rfl, entry]
      rfl
    exact ⟨_, _, _, rfl, shown, ⟨_, shown, rfl, rfl⟩, ⟨w.trees, congrArg (· :: w.trees) (parsed_tree ..)⟩⟩

theorem display_shows (driver : Driver u w r) (url markup : String) :
    ∃ v, (display r url markup).runOn w = (.ok ⟨⟩, v) ∧ Driver u v r ∧
      Shows v r (Html.parse markup 0).1 url w.nextId ∧ Offline w v := by
  obtain ⟨p, here, interceptors, intercepting⟩ := driver.page
  obtain ⟨trees, nextId, pages, run, there, shows⟩ := display_runOn here url markup
  exact ⟨_, run, ⟨⟨_, there, interceptors, intercepting⟩, driver.site, driver.poll, driver.quiet,
    driver.timely⟩, shows, rfl, rfl⟩

theorem display_alike (url markup : String) :
    Act.Alike (Aligned base base') (Ready u r r' base base')
      (fun _ _ w w' => ∃ k, Showing u r r' base base' k w w') (display r url markup)
      (display r' url markup) := by
  intro w w' ready
  obtain ⟨v, run, driver, shows, offline⟩ := display_shows ready.driver url markup
  obtain ⟨v', run', driver', shows', offline'⟩ := display_shows ready.driver' url markup
  rw [run, run']
  let k : Content := ⟨(Html.parse markup 0).1, (Html.parse_numbers markup 0).1, url, w.nextId, w'.nextId⟩
  exact .done ⟨k, ⟨driver, driver', ready.aligned.offline offline offline'⟩, shows, shows'⟩

theorem Ready.noted (ready : Ready u r r' base base' w w') (log log' : List Event) :
    Ready u r r' base base' { w with log } { w' with log := log' } :=
  ⟨ready.driver.noted _ _ _, ready.driver'.noted _ _ _, ready.aligned.requests, ready.aligned.handled⟩

theorem Showing.noted {k : Content} (showing : Showing u r r' base base' k w w') (log log' : List Event) :
    Showing u r r' base base' k { w with log } { w' with log := log' } :=
  ⟨showing.ready.noted log log', ⟨showing.shows.page, showing.shows.tree⟩,
    ⟨showing.shows'.page, showing.shows'.tree⟩⟩

theorem reportVisit_runOn (q : PageRequest) (status : Int) (w : StaticWorld) :
    ∃ log, (reportVisit q status).runOn w = (.ok ⟨⟩, { w with log }) := by
  unfold reportVisit
  rw [Act.runOn_modify]
  split
  · exact ⟨_, rfl⟩
  · exact ⟨w.log, rfl⟩

/-- Drivers with the same setting answer a visit alike, and show the same document after it. -/
theorem navigate_alike (timely : t.Timely u.site) (visit : Visit) :
    Act.Alike (Aligned base base') (Ready u r r' base base')
      (fun a a' w w' => a = a' ∧ ∃ k, Showing u r r' base base' k w w') (navigateVia t r visit)
      (navigateVia t r' visit) := by
  intro w w' ready
  obtain ⟨p, here, interceptors, intercepting⟩ := ready.driver.page
  obtain ⟨p', here', interceptors', intercepting'⟩ := ready.driver'.page
  unfold navigateVia
  rw [Act.runOn_bind, Act.runOn_bind, page_runOn here, page_runOn here']
  dsimp only
  -- nothing is asked of the backend for a blank page
  split
  · refine Act.Alike.bind (display_alike blankUrl "") ?_ w w' ready
    intro _ _ w w' shown
    exact .done ⟨rfl, shown⟩
  · refine Act.Alike.bind
      (fetch_agree timely interceptors interceptors' intercepting intercepting' _) ?_ w w' ready
    rintro ⟨status, url, markup⟩ _ w w' ⟨rfl, ready⟩
    refine Act.Alike.bind (display_alike url markup) ?_ w w' ready
    rintro _ _ w w' ⟨k, shown⟩
    let q : PageRequest := ⟨Text.upper visit.method, visit.url, visit.postData, []⟩
    obtain ⟨log, noted⟩ := reportVisit_runOn q status w
    obtain ⟨log', noted'⟩ := reportVisit_runOn q status w'
    rw [Act.runOn_bind, Act.runOn_bind, noted, noted']
    exact .done ⟨rfl, k, shown.noted log log'⟩

end Visits
section Reads
variable {u : Setting} {r r' : PageRef} {base base' : StaticWorld} {k : Content} {t : Backend}
  (uniform : t.engine.IgnoresNumbers)
include uniform

theorem queryAll_alike (below : t.engine.PicksBelow) (selector : String) {root root' : Option Nat}
    (same : Option.Rel k.handle root root') :
    Act.Alike (Aligned base base') (Showing u r r' base base' k)
      (fun found found' w w' => List.Forall₂ k.handle found found' ∧ Showing u r r' base base' k w w')
      (queryAll t.engine r selector root) (queryAll t.engine r' selector root') := by
  intro w w' showing
  obtain ⟨j, q, found, start, start'⟩ := Content.start same
  rw [showing.shows.queryAll_runOn uniform start found, showing.shows'.queryAll_runOn uniform start' found]
  cases reading : t.engine selector with
  | error f => exact .failed showing.ready.aligned
  | ok pick =>
    refine .done ⟨?_, showing⟩
    rw [List.forall₂_map_left_iff, List.forall₂_map_right_iff, List.forall₂_same]
    exact fun i mem => ⟨i, Content.mem_picked below reading found mem, rfl, rfl⟩

theorem extract_alike (selector : String) (attr : Option String) {root root' : Option Nat}
    (same : Option.Rel k.handle root root') :
    Act.Alike (Aligned base base') (Showing u r r' base base' k)
      (fun v v' w w' => v = v' ∧ Showing u r r' base base' k w w')
      (extract t.engine r root selector attr) (extract t.engine r' root' selector attr) := by
  intro w w' showing
  obtain ⟨j, q, found, start, start'⟩ := Content.start same
  rw [showing.shows.extract_runOn uniform start found, showing.shows'.extract_runOn uniform start' found]
  cases extracted t.engine k.url (some q) selector attr with
  | error f => exact .failed showing.ready.aligned
  | ok v => exact .done ⟨rfl, showing⟩

variable {C : Type} {g g' : Host StaticWorld PageRef Nat C} (serves : Serves t g) (serves' : Serves t g')
include serves serves'

theorem wait_alike {d : Defaults} (calm : t.Calm d.pollIntervalMs u.pollIntervalMs)
    (selector : String) (requested : Value)
    {state state' : ReplayState PageRef Nat} (page : state.page = r) (page' : state'.page = r')
    (scope : Scope.Alike k.handle state.scope state'.scope) :
    Act.Alike (Aligned base base') (Showing u r r' base base' k)
      (fun next next' w w' => next = state ∧ next' = state' ∧ Showing u r r' base base' k w w')
      (Handler.waitStep g d selector requested state)
      (Handler.waitStep g' d selector requested state') := by
  intro w w' showing
  have same (timeoutMs : Int) (span : Rat) :
      List.Forall₂ (fun root root' => attended t.engine w d r selector timeoutMs span root =
        attended t.engine w' d r' selector timeoutMs span root') state.scope.roots state'.scope.roots := by
    refine scope.roots.imp fun root root' same => ?_
    obtain ⟨j, q, found, start, start'⟩ := Content.start same
    refine attended_congr t.engine ?_ d timeoutMs span
    rw [showing.shows.searched_isSome uniform start found, showing.shows'.searched_isSome uniform start' found,
      showing.ready.driver.poll, showing.ready.driver'.poll]
  have waited := waitStep_alike serves serves' (showing.ready.driver.poll ▸ calm)
    (showing.ready.driver'.poll ▸ calm) showing.ready.driver.quiet showing.ready.driver'.quiet
    showing.ready.driver.timely showing.ready.driver'.timely requested page page' same
  generalize (Handler.waitStep g d selector requested state).runOn w = out at waited ⊢
  generalize (Handler.waitStep g' d selector requested state').runOn w' = out' at waited ⊢
  cases waited with
  | failed offline => exact .failed (showing.ready.aligned.offline offline.1 offline.2)
  | done same =>
    obtain ⟨rfl, rfl, rfl, rfl⟩ := same
    exact .done ⟨rfl, rfl, showing⟩

end Reads

/-- Two drivers with the same setting side by side. -/
def mirror {C : Type} {t : Backend} {u : Setting} {d : Defaults}
    (uniform : t.Uniform u.site d.pollIntervalMs u.pollIntervalMs) {g g' : Host StaticWorld PageRef Nat C}
    (serves : Serves t g) (serves' : Serves t g') (r r' : PageRef) (base base' : StaticWorld) :
    Replay.Mirror g g' d r r' Content where
  ready := Ready u r r' base base'
  shows := Showing u r r' base base'
  failed := Aligned base base'
  handle k := k.handle
  ready_of_shows := Showing.ready
  failed_of_ready := Ready.aligned
  emit_ready {w w'} e e' ready := by
    obtain ⟨log, emitted⟩ := serves.emit e w
    obtain ⟨log', emitted'⟩ := serves'.emit e' w'
    rw [emitted, emitted']
    exact ready.noted log log'
  emit_shows {k w w'} e e' showing := by
    obtain ⟨log, emitted⟩ := serves.emit e w
    obtain ⟨log', emitted'⟩ := serves'.emit e' w'
    rw [emitted, emitted']
    exact showing.noted log log'
  emit_failed {w w'} e e' aligned := by
    obtain ⟨log, emitted⟩ := serves.emit e w
    obtain ⟨log', emitted'⟩ := serves'.emit e' w'
    rw [emitted, emitted']
    exact ⟨aligned.requests, aligned.handled⟩
  blank := by
    rw [serves.blank, serves'.blank]
  navigate visit := by
    rw [serves.navigate, serves'.navigate]
    exact navigate_alike uniform.timely visit
  queryAll selector same := by
    rw [serves.queryAll, serves'.queryAll]
    exact queryAll_alike uniform.ignores uniform.below selector same
  extract selector attr same := by
    rw [serves.extract, serves'.extract]
    exact extract_alike uniform.ignores selector attr same
  wait selector requested results results' n n' scope :=
    wait_alike uniform.ignores serves serves' uniform.toCalm selector requested rfl rfl scope

end StaticWorld
end PageHarvest
