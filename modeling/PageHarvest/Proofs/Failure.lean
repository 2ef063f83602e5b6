import Mathlib.Data.List.Forall2
import PageHarvest.Failure

/-!
Computations that can fail, by their parts. One that succeeds has parts that do. One that fails lets
escape, if it is no construction failure, what one of its parts does after the parts before it have
succeeded.
-/
namespace PageHarvest
variable {α β : Type}

theorem bind_ok_iff {ε : Type} {x : Except ε α} {g : α → Except ε β} {b : β} :
    (x >>= g) = .ok b ↔ ∃ a, x = .ok a ∧ g a = .ok b := by
  cases x with
  | error e => simp [bind, Except.bind]
  | ok a => simp [bind, Except.bind]

theorem bind_error_iff {x : Except Failure α} {g : α → Except Failure β} {f : Failure} :
    (x >>= g) = .error f ↔ x = .error f ∨ ∃ a, x = .ok a ∧ g a = .error f := by
  cases x with
  | error e => simp [bind, Except.bind]
  | ok a => simp [bind, Except.bind]

/-- A computation whose result passes a test succeeds. -/
theorem exists_ok_of_any {ε : Type} {x : Except ε α} {test : α → Bool}
    (passes : x.toOption.any test = true) : ∃ a, x = .ok a ∧ test a = true := by
  cases x with
  | error e => cases passes
  | ok a => exact ⟨a, rfl, passes⟩

theorem map_ok_iff {x : Except Failure α} {g : α → β} {b : β} :
    x.map g = .ok b ↔ ∃ a, x = .ok a ∧ g a = b := by
  cases x with
  | error e => simp [Except.map]
  | ok a => simp [Except.map]

theorem map_error_iff {x : Except Failure α} {g : α → β} {f : Failure} :
    x.map g = .error f ↔ x = .error f := by
  cases x with
  | error e => simp [Except.map]
  | ok a => simp [Except.map]

theorem mapM_ok_iff {g : α → Except Failure β} {l : List α} {bs : List β} :
    l.mapM g = .ok bs ↔ List.Forall₂ (fun a b => g a = .ok b) l bs := by
  induction l generalizing bs with
  | nil =>
    rw [List.forall₂_nil_left_iff]
    constructor
    · rintro ⟨⟩
      rfl
    · rintro rfl
      rfl
  | cons a rest ih =>
    rw [List.mapM_cons, List.forall₂_cons_left_iff, bind_ok_iff]
    constructor
    · rintro ⟨b, done, others⟩
      obtain ⟨more, later, same⟩ := bind_ok_iff.mp others
      cases same
      exact ⟨b, more, done, ih.mp later, rfl⟩
    · rintro ⟨b, more, done, later, rfl⟩
      exact ⟨b, done, bind_ok_iff.mpr ⟨more, ih.mpr later, rfl⟩⟩

theorem mapM_congr {γ : Type} {g : α → Except Failure γ} {g' : β → Except Failure γ} {l : List α}
    {l' : List β} (same : List.Forall₂ (fun a b => g a = g' b) l l') : l.mapM g = l'.mapM g' := by
  induction same with
  | nil => rfl
  | cons here _ ih => rw [List.mapM_cons, List.mapM_cons, here, ih]

theorem getElem?_of_mapM {g : α → Except Failure β} {l : List α} {bs : List β} (done : l.mapM g = .ok bs)
    {i : Nat} {b : β} (given : bs[i]? = some b) : ∃ a, l[i]? = some a ∧ g a = .ok b := by
  have together := mapM_ok_iff.mp done
  obtain ⟨inside, rfl⟩ := List.getElem?_eq_some_iff.mp given
  have within : i < l.length := together.length_eq ▸ inside
  exact ⟨l[i], List.getElem?_eq_getElem within, together.get within inside⟩

theorem ok_of_mapM {g : α → Except Failure β} {l : List α} {bs : List β} (done : l.mapM g = .ok bs) :
    (∀ a ∈ l, ∃ b ∈ bs, g a = .ok b) ∧ ∀ b ∈ bs, ∃ a ∈ l, g a = .ok b := by
  induction mapM_ok_iff.mp done with
  | nil => exact ⟨nofun, nofun⟩
  | @cons a b rest others here together ih =>
    obtain ⟨given, taken⟩ := ih (mapM_ok_iff.mpr together)
    constructor
    · refine List.forall_mem_cons.mpr ⟨⟨b, List.mem_cons_self, here⟩, fun a' mem => ?_⟩
      obtain ⟨b', later, same⟩ := given a' mem
      exact ⟨b', List.mem_cons_of_mem b later, same⟩
    · intro b' mem
      rcases List.mem_cons.mp mem with rfl | mem
      · exact ⟨a, List.mem_cons_self, here⟩
      · obtain ⟨a', later, same⟩ := taken b' mem
        exact ⟨a', List.mem_cons_of_mem a later, same⟩

theorem map_of_mapM {g : α → Except Failure β} {l : List α} {bs : List β} {value : α → β}
    (values : ∀ a b, g a = .ok b → value a = b) (done : l.mapM g = .ok bs) : l.map value = bs := by
  rw [← List.forall₂_eq_eq_eq, List.forall₂_map_left_iff]
  exact (mapM_ok_iff.mp done).imp values

/-- Of several parts, those before the one that fails succeed. -/
theorem mapM_error_iff {g : α → Except Failure β} {l : List α} {f : Failure} :
    l.mapM g = .error f ↔ ∃ before a after, l = before ++ a :: after ∧
      (∀ b ∈ before, ∃ r, g b = .ok r) ∧ g a = .error f := by
  induction l with
  | nil => simp [List.mapM_nil, pure, Except.pure]
  | cons b rest ih =>
    rw [List.mapM_cons, bind_error_iff]
    constructor
    · rintro (now | ⟨r, done, later⟩)
      · exact ⟨[], b, rest, rfl, nofun, now⟩
      · obtain failed | ⟨rs, -, never⟩ := bind_error_iff.mp later
        · obtain ⟨before, a, after, rfl, succeed, here⟩ := ih.mp failed
          refine ⟨b :: before, a, after, rfl, ?_, here⟩
          exact List.forall_mem_cons.mpr ⟨⟨r, done⟩, succeed⟩
        · cases never
    · rintro ⟨before, a, after, split, succeed, here⟩
      cases before with
      | nil =>
        cases split
        exact .inl here
      | cons b' before =>
        cases split
        obtain ⟨⟨r, done⟩, succeed⟩ := List.forall_mem_cons.mp succeed
        refine .inr ⟨r, done, bind_error_iff.mpr (.inl (ih.mpr ?_))⟩
        exact ⟨before, a, after, rfl, succeed, here⟩

theorem exists_of_mapM_error {g : α → Except Failure β} {l : List α} {f : Failure}
    (failed : l.mapM g = .error f) : ∃ a ∈ l, g a = .error f := by
  obtain ⟨before, a, after, rfl, -, here⟩ := mapM_error_iff.mp failed
  exact ⟨a, List.mem_append_right before List.mem_cons_self, here⟩

theorem exists_mapM_ok {g : α → Except Failure β} {l : List α} (each : ∀ a ∈ l, ∃ b, g a = .ok b) :
    ∃ bs, l.mapM g = .ok bs := by
  cases made : l.mapM g with
  | ok bs => exact ⟨bs, rfl⟩
  | error f =>
    obtain ⟨a, mem, failed⟩ := exists_of_mapM_error made
    obtain ⟨b, done⟩ := each a mem
    cases done.symm.trans failed

theorem mapM_succeeds_iff {g : α → Except Failure β} {l : List α} :
    (∃ bs, l.mapM g = .ok bs) ↔ ∀ a ∈ l, ∃ b, g a = .ok b := by
  refine ⟨?_, exists_mapM_ok⟩
  rintro ⟨bs, done⟩ a mem
  obtain ⟨b, -, here⟩ := (ok_of_mapM done).1 a mem
  exact ⟨b, here⟩

theorem map_succeeds_iff {x : Except Failure α} {g : α → β} : (∃ b, x.map g = .ok b) ↔ ∃ a, x = .ok a := by
  cases x with
  | error e => simp [Except.map]
  | ok a => simp [Except.map]

/-- If the computation fails, then with a failure of the kind `P`. -/
def FailsWith (P : Failure → Prop) (x : Except Failure α) : Prop :=
  ∀ f, x = .error f → P f

namespace FailsWith
variable {P : Failure → Prop}

theorem ok (a : α) : FailsWith P (.ok a) :=
  fun _ same => nomatch same

theorem error {f : Failure} (kind : P f) : FailsWith P (.error f : Except Failure α) := by
  rintro _ ⟨⟩
  exact kind

theorem bind {x : Except Failure α} {g : α → Except Failure β} (first : FailsWith P x)
    (next : ∀ a, FailsWith P (g a)) : FailsWith P (x >>= g) := by
  intro f failed
  obtain now | ⟨a, -, later⟩ := bind_error_iff.mp failed
  · exact first f now
  · exact next a f later

theorem mono {Q : Failure → Prop} {x : Except Failure α} (fails : FailsWith P x)
    (imp : ∀ f, P f → Q f) : FailsWith Q x :=
  fun f failed => imp f (fails f failed)

end FailsWith

/-- The computation fails with `f`, which says nothing about a definition. -/
def Escapes (x : Except Failure α) (f : Failure) : Prop :=
  x = .error f ∧ f.cause.isConstruction = false

@[simp]
theorem not_escapes_ok (a : α) (f : Failure) : ¬ Escapes (.ok a) f :=
  fun escapes => nomatch escapes.1

@[simp]
theorem not_escapes_pure (a : α) (f : Failure) : ¬ Escapes (pure a) f :=
  fun escapes => nomatch escapes.1

@[simp]
theorem escapes_error_iff (e f : Failure) :
    Escapes (.error e : Except Failure α) f ↔ e = f ∧ e.cause.isConstruction = false := by
  constructor
  · rintro ⟨same, other⟩
    cases same
    exact ⟨rfl, other⟩
  · rintro ⟨rfl, other⟩
    exact ⟨rfl, other⟩

theorem escapes_bind_iff (x : Except Failure α) (g : α → Except Failure β) (f : Failure) :
    Escapes (x >>= g) f ↔ Escapes x f ∨ ∃ a, x = .ok a ∧ Escapes (g a) f := by
  cases x with
  | error e => simp [Escapes, bind, Except.bind]
  | ok a => simp [Escapes, bind, Except.bind]

@[simp]
theorem escapes_map_iff (g : α → β) (x : Except Failure α) (f : Failure) :
    Escapes (g <$> x) f ↔ Escapes x f := by
  cases x with
  | error e => simp [Escapes, Functor.map, Except.map]
  | ok a => simp [Escapes, Functor.map, Except.map]

theorem escapes_mapM_iff (g : α → Except Failure β) (l : List α) (f : Failure) :
    Escapes (l.mapM g) f ↔ ∃ before a after, l = before ++ a :: after ∧
      (∀ b ∈ before, ∃ r, g b = .ok r) ∧ Escapes (g a) f := by
  unfold Escapes
  rw [mapM_error_iff]
  constructor
  · rintro ⟨⟨before, a, after, split, succeed, here⟩, other⟩
    exact ⟨before, a, after, split, succeed, here, other⟩
  · rintro ⟨before, a, after, split, succeed, here, other⟩
    exact ⟨⟨before, a, after, split, succeed, here⟩, other⟩

/-- Whatever escapes is of the kind `P`. -/
def Within (P : Failure → Prop) (x : Except Failure α) : Prop :=
  ∀ f, Escapes x f → P f

namespace Within
variable {P : Failure → Prop}

@[simp]
theorem ok (a : α) : Within P (.ok a) :=
  fun _ escapes => nomatch escapes.1

@[simp]
theorem pure (a : α) : Within P (Pure.pure a : Except Failure α) :=
  ok a

theorem error {e : Failure} (kind : P e) : Within P (.error e : Except Failure α) :=
  fun _ escapes => ((escapes_error_iff _ _).mp escapes).1 ▸ kind

@[simp]
theorem ite_iff {c : Prop} [Decidable c] {x y : Except Failure α} :
    Within P (if c then x else y) ↔ (c → Within P x) ∧ (¬ c → Within P y) := by
  by_cases h : c <;> simp [h]

/-- Construction failures do not escape. -/
theorem construction {e : Failure} (construction : e.cause.isConstruction = true) :
    Within P (.error e : Except Failure α) := by
  intro f escapes
  obtain ⟨rfl, other⟩ := (escapes_error_iff _ _).mp escapes
  rw [construction] at other
  cases other

theorem mono {Q : Failure → Prop} {x : Except Failure α} (within : Within P x)
    (imp : ∀ f, P f → Q f) : Within Q x :=
  fun f escapes => imp f (within f escapes)

@[simp]
theorem bind_iff {x : Except Failure α} (first : Within P x) {g : α → Except Failure β} :
    Within P (x >>= g) ↔ ∀ a, x = .ok a → Within P (g a) := by
  constructor
  · intro both a done f escapes
    exact both f ((escapes_bind_iff _ _ _).mpr (.inr ⟨a, done, escapes⟩))
  · intro second f escapes
    obtain now | ⟨a, done, later⟩ := (escapes_bind_iff _ _ _).mp escapes
    · exact first f now
    · exact second a done f later

theorem bind {x : Except Failure α} {g : α → Except Failure β} (first : Within P x)
    (second : ∀ a, Within P (g a)) : Within P (x >>= g) :=
  (bind_iff first).mpr fun a _ => second a

@[simp]
theorem map {x : Except Failure α} (g : α → β) (first : Within P x) : Within P (g <$> x) := by
  intro f escapes
  rw [escapes_map_iff] at escapes
  exact first f escapes

theorem mapM {g : α → Except Failure β} (each : ∀ a, Within P (g a)) (l : List α) :
    Within P (l.mapM g) := by
  intro f escapes
  obtain ⟨_, a, _, _, _, here⟩ := (escapes_mapM_iff _ _ _).mp escapes
  exact each a f here

end Within
end PageHarvest
