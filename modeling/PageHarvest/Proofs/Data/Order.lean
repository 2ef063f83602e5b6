import PageHarvest.Data.Order

/-!
When keys can be sorted. Keys fall into kinds, two keys compare exactly when they are of one kind, and
the sort compares every key with some other: it succeeds when all keys are of one kind, or when there
is nothing to compare.
-/
namespace PageHarvest.Value

/-- Kinds of keys that have an order among themselves. -/
inductive OrderKind where
  | number
  | text
  | bytes
  | date
  | moment (zoned : Bool)
  deriving Repr, DecidableEq

/-- The kind of a key, if it has an order at all. -/
def orderKind? : Value → Option OrderKind
  | .bool _ | .int _ | .float _ => some .number
  | .text _ => some .text
  | .bytes _ => some .bytes
  | .date _ => some .date
  | .moment t => some (.moment t.offset.isSome)
  | _ => none

theorem less?_isOk_iff (a b : Value) :
    (less? a b).isOk ↔ a.orderKind?.isSome ∧ a.orderKind? = b.orderKind? := by
  cases a <;> cases b <;> simp [less?, orderKind?, Except.isOk, Except.toBool, number?, asFloat?]
  case bool.float x => cases x.toRat? <;> rfl
  case int.float x => cases x.toRat? <;> rfl
  case float.bool x _ => cases x.toRat? <;> rfl
  case float.int x _ => cases x.toRat? <;> rfl
  case float.float x y => cases x.toRat? <;> cases y.toRat? <;> rfl
  case moment.moment s t =>
    cases s.offset.isSome <;> cases t.offset.isSome <;> simp

/-- All keys are of the kind `k`. -/
def AllOf (k : OrderKind) (vs : List Value) : Prop :=
  ∀ v ∈ vs, v.orderKind? = some k

theorem AllOf.insert {k : OrderKind} {vs : List Value} (kinds : AllOf k vs) {v : Value}
    (kind : v.orderKind? = some k) (n : Nat) : AllOf k (vs.take n ++ v :: vs.drop n) := by
  intro u mem
  rcases List.mem_append.mp mem with before | after
  · exact kinds u (List.mem_of_mem_take before)
  · rcases List.mem_cons.mp after with rfl | after
    · exact kind
    · exact kinds u (List.mem_of_mem_drop after)

theorem less?_ok_of_kind {k : OrderKind} {a b : Value} (ha : a.orderKind? = some k)
    (hb : b.orderKind? = some k) : ∃ less, less? a b = .ok less := by
  have ok := (less?_isOk_iff a b).mpr ⟨by rw [ha]; rfl, ha.trans hb.symm⟩
  cases compared : less? a b with
  | error m => rw [compared] at ok; cases ok
  | ok less => exact ⟨less, rfl⟩

theorem kind_of_less? {k : OrderKind} {a b : Value} {less : Bool} (compared : less? a b = .ok less)
    (hb : b.orderKind? = some k) : a.orderKind? = some k := by
  have ok : (less? a b).isOk := by rw [compared]; rfl
  exact ((less?_isOk_iff a b).mp ok).2.trans hb

/-! Keys that were compared are of one kind. -/

theorem kind_of_frontRun {k : OrderKind} {falling : Bool} {last : Value} {rest : List Value} {n : Nat}
    (run : frontRun falling last rest = .ok n) (kind : last.orderKind? = some k) :
    AllOf k (rest.take n) := by
  induction rest generalizing last n with
  | nil => exact fun v mem => by simp at mem
  | cons v rest ih =>
    cases compared : less? v last with
    | error m => simp [frontRun, compared, bind, Except.bind] at run
    | ok less =>
      have of_kind := kind_of_less? compared kind
      -- the key that ends the run was compared as well, but is not one of those taken
      by_cases goes_on : less = falling
      · cases further : frontRun falling v rest with
        | error m => simp [frontRun, compared, goes_on, further, bind, Except.bind] at run
        | ok m =>
          simp [frontRun, compared, goes_on, further, bind, Except.bind, pure, Except.pure] at run
          subst run
          exact List.forall_mem_cons.mpr ⟨of_kind, ih further of_kind⟩
      · simp [frontRun, compared, goes_on, bind, Except.bind, pure, Except.pure] at run
        subst run
        exact fun v mem => by simp at mem

theorem kind_of_getD {k : OrderKind} {sorted : List Value} (kinds : AllOf k sorted) {n : Nat}
    (inside : n < sorted.length) : (sorted.toArray.getD n .null).orderKind? = some k := by
  refine kinds _ ?_
  simp [Array.getD, inside]

theorem kind_of_insertionPoint {k : OrderKind} {sorted : List Value} (kinds : AllOf k sorted)
    {v : Value} {n fuel : Nat} (length : 0 < sorted.length) (fuelled : 0 < fuel)
    (found : insertionPoint sorted.toArray v 0 sorted.length fuel = .ok n) :
    v.orderKind? = some k := by
  have inside : (0 + sorted.length) / 2 < sorted.length := by omega
  cases fuel with
  | zero => cases fuelled
  | succ fuel =>
    unfold insertionPoint at found
    rw [if_neg (by omega)] at found
    cases compared : less? v (sorted.toArray.getD ((0 + sorted.length) / 2) .null) with
    | error m =>
      simp only [compared, bind, Except.bind] at found
      cases found
    | ok less => exact kind_of_less? compared (kind_of_getD kinds inside)

theorem kind_of_insertAll {k : OrderKind} {sorted rest result : List Value} (kinds : AllOf k sorted)
    (length : 0 < sorted.length) (inserted : insertAll sorted rest = .ok result) : AllOf k rest := by
  induction rest generalizing sorted with
  | nil => exact fun v mem => by cases mem
  | cons v rest ih =>
    cases found : insertionPoint sorted.toArray v 0 sorted.length sorted.length with
    | error m => simp [insertAll, found, bind, Except.bind] at inserted
    | ok n =>
      have of_kind := kind_of_insertionPoint kinds length length found
      simp only [insertAll, found, bind, Except.bind] at inserted
      refine List.forall_mem_cons.mpr ⟨of_kind, ih (kinds.insert of_kind n) ?_ inserted⟩
      rw [List.length_append, List.length_cons]
      omega

/-! Keys of one kind can be compared. -/

theorem frontRun_ok {k : OrderKind} (falling : Bool) {last : Value} {rest : List Value}
    (kind : last.orderKind? = some k) (kinds : AllOf k rest) :
    ∃ n, frontRun falling last rest = .ok n := by
  induction rest generalizing last with
  | nil => exact ⟨0, rfl⟩
  | cons v rest ih =>
    obtain ⟨of_kind, others⟩ := List.forall_mem_cons.mp kinds
    obtain ⟨less, compared⟩ := less?_ok_of_kind of_kind kind
    obtain ⟨n, further⟩ := ih of_kind others
    simp only [frontRun, compared, further, bind, Except.bind]
    by_cases goes_on : less = falling
    · exact ⟨n + 1, by simp [goes_on, pure, Except.pure]⟩
    · exact ⟨0, by simp [goes_on, pure, Except.pure]⟩

theorem insertionPoint_ok {k : OrderKind} {sorted : List Value} (kinds : AllOf k sorted) {v : Value}
    (kind : v.orderKind? = some k) {lo hi : Nat} (within : hi ≤ sorted.length) (fuel : Nat) :
    ∃ n, insertionPoint sorted.toArray v lo hi fuel = .ok n := by
  induction fuel generalizing lo hi with
  | zero => exact ⟨lo, rfl⟩
  | succ fuel ih =>
    unfold insertionPoint
    by_cases empty : hi ≤ lo
    · exact ⟨lo, if_pos empty⟩
    · have inside : (lo + hi) / 2 < sorted.length := by omega
      obtain ⟨less, compared⟩ := less?_ok_of_kind kind (kind_of_getD kinds inside)
      simp only [empty, if_false, compared, bind, Except.bind]
      cases less with
      | true => exact ih (by omega)
      | false => exact ih within

theorem insertAll_ok {k : OrderKind} {sorted rest : List Value} (kinds : AllOf k sorted)
    (others : AllOf k rest) : ∃ result, insertAll sorted rest = .ok result := by
  induction rest generalizing sorted with
  | nil => exact ⟨sorted, rfl⟩
  | cons v rest ih =>
    obtain ⟨of_kind, others⟩ := List.forall_mem_cons.mp others
    obtain ⟨n, found⟩ : ∃ n, insertionPoint sorted.toArray v 0 sorted.length sorted.length = .ok n :=
      insertionPoint_ok kinds of_kind (Nat.le_refl _) sorted.length
    simp only [insertAll, found, bind, Except.bind]
    exact ih (kinds.insert of_kind n) others

/-- What sorting several keys amounts to: a comparison of the first two, a run from there, and the others
inserted into it. -/
theorem sorted?_eq_ok_iff {v w : Value} {rest result : List Value} :
    sorted? (v :: w :: rest) = .ok result ↔ ∃ falling n, less? w v = .ok falling ∧
      frontRun falling w rest = .ok n ∧
      insertAll (if falling then (v :: w :: rest.take n).reverse else v :: w :: rest.take n)
        (rest.drop n) = .ok result := by
  cases compared : less? w v with
  | error m => simp [sorted?, compared, bind, Except.bind]
  | ok falling =>
    cases run : frontRun falling w rest with
    | error m => simp [sorted?, compared, run, bind, Except.bind]
    | ok n => simp [sorted?, compared, run, bind, Except.bind]

theorem perm_of_run (falling : Bool) (run : List Value) :
    (if falling then run.reverse else run).Perm run := by
  cases falling with
  | true => exact List.reverse_perm run
  | false => exact .refl run

/-- Keys can be sorted when they are of one kind that has an order, or when there is only one. -/
theorem sorted?_isOk_iff (vs : List Value) :
    (sorted? vs).isOk ↔ vs.length ≤ 1 ∨ ∃ k, AllOf k vs := by
  match vs with
  | [] => simp [sorted?, Except.isOk, Except.toBool]
  | [v] => simp [sorted?, Except.isOk, Except.toBool]
  | v :: w :: rest =>
    constructor
    · intro ok
      refine .inr ?_
      cases sorted : sorted? (v :: w :: rest) with
      | error m =>
        rw [sorted] at ok
        cases ok
      | ok result =>
        obtain ⟨falling, n, compared, run, inserted⟩ := sorted?_eq_ok_iff.mp sorted
        have alike := (less?_isOk_iff w v).mp (by rw [compared]; rfl)
        obtain ⟨k, kind_w⟩ := Option.isSome_iff_exists.mp alike.1
        have front : AllOf k (v :: w :: rest.take n) :=
          List.forall_mem_cons.mpr ⟨alike.2.symm.trans kind_w,
            List.forall_mem_cons.mpr ⟨kind_w, kind_of_frontRun run kind_w⟩⟩
        -- a key after the run was compared with one of the run, which is never empty
        have back : AllOf k (rest.drop n) := by
          refine kind_of_insertAll (fun u mem => front u ((perm_of_run falling _).mem_iff.mp mem)) ?_ inserted
          rw [(perm_of_run falling _).length_eq]
          exact Nat.zero_lt_succ _
        refine ⟨k, fun u mem => ?_⟩
        rw [← List.take_append_drop n rest, ← List.cons_append, ← List.cons_append] at mem
        rcases List.mem_append.mp mem with first | later
        · exact front u first
        · exact back u later
    · rintro (short | ⟨k, kinds⟩)
      · simp at short
      · obtain ⟨kind_v, kinds⟩ := List.forall_mem_cons.mp kinds
        obtain ⟨kind_w, others⟩ := List.forall_mem_cons.mp kinds
        obtain ⟨falling, compared⟩ := less?_ok_of_kind kind_w kind_v
        obtain ⟨n, run⟩ := frontRun_ok falling kind_w others
        have front : AllOf k (v :: w :: rest.take n) :=
          List.forall_mem_cons.mpr ⟨kind_v, List.forall_mem_cons.mpr
            ⟨kind_w, fun u mem => others u (List.mem_of_mem_take mem)⟩⟩
        obtain ⟨result, inserted⟩ := insertAll_ok
          (fun u mem => front u ((perm_of_run falling _).mem_iff.mp mem))
          (fun u mem => others u (List.mem_of_mem_drop mem))
        rw [sorted?_eq_ok_iff.mpr ⟨falling, n, compared, run, inserted⟩]
        rfl

/-! Sorting keeps the keys. -/

theorem perm_of_insertAll {sorted rest result : List Value} (inserted : insertAll sorted rest = .ok result) :
    result.Perm (sorted ++ rest) := by
  induction rest generalizing sorted with
  | nil =>
    cases inserted
    rw [List.append_nil]
  | cons v rest ih =>
    cases found : insertionPoint sorted.toArray v 0 sorted.length sorted.length with
    | error m => simp [insertAll, found, bind, Except.bind] at inserted
    | ok n =>
      simp only [insertAll, found, bind, Except.bind] at inserted
      have placed : (sorted.take n ++ v :: sorted.drop n).Perm (v :: sorted) := by
        have moved : (sorted.take n ++ v :: sorted.drop n).Perm (v :: (sorted.take n ++ sorted.drop n)) :=
          List.perm_middle
        rwa [List.take_append_drop] at moved
      exact (ih inserted).trans ((placed.append_right rest).trans List.perm_middle.symm)

theorem perm_of_sorted? {vs result : List Value} (sorted : sorted? vs = .ok result) : result.Perm vs := by
  match vs with
  | [] =>
    cases sorted
    rfl
  | [v] =>
    cases sorted
    rfl
  | v :: w :: rest =>
    obtain ⟨falling, n, -, -, inserted⟩ := sorted?_eq_ok_iff.mp sorted
    have front := (perm_of_run falling (v :: w :: rest.take n)).append_right (rest.drop n)
    rw [List.cons_append, List.cons_append, List.take_append_drop] at front
    exact (perm_of_insertAll inserted).trans front

end PageHarvest.Value
