import PageHarvest.Proofs.Failure
import PageHarvest.Url

/-!
When addresses cannot be joined. Only an authority can be at fault, that of the page's address or that of
the reference, and no reading beside it.
-/
namespace PageHarvest.Url

/-- What is wrong with the authority of an address, if it has one. -/
def fault? (text : List Char) : Option String :=
  let cs := cleaned text
  authorityFault? (cutAuthority ((scheme? cs).elim cs (·.2))).1

theorem read_error_iff (text : List Char) (scheme : String) (f : Failure) :
    read text scheme = .error f ↔ ∃ fault, fault? text = some fault ∧ f = Cause.badValue fault := by
  have remaining : ((scheme? (cleaned text)).getD (scheme, cleaned text)).2 =
      (scheme? (cleaned text)).elim (cleaned text) (·.2) := by
    cases scheme? (cleaned text) <;> rfl
  unfold read fault?
  dsimp only
  rw [remaining]
  cases authorityFault? (cutAuthority ((scheme? (cleaned text)).elim (cleaned text) (·.2))).1 with
  | none => simp
  | some fault => simp [eq_comm]

/-- The failure of joining two addresses that are there: the base is read first. -/
inductive Unjoinable (base reference : List Char) : Failure → Prop where
  | base {fault} (wrong : fault? base = some fault) : Unjoinable base reference (Cause.badValue fault)
  | reference {fault} (sound : fault? base = none) (wrong : fault? reference = some fault) :
      Unjoinable base reference (Cause.badValue fault)

theorem sound_of_read {text : List Char} {scheme : String} {u : Url} (made : read text scheme = .ok u) :
    fault? text = none := by
  cases wrong : fault? text with
  | none => rfl
  | some fault =>
    rw [(read_error_iff text scheme _).mpr ⟨fault, wrong, rfl⟩] at made
    cases made

theorem read_of_sound {text : List Char} (sound : fault? text = none) (scheme : String) :
    ∃ u, read text scheme = .ok u := by
  cases made : read text scheme with
  | ok u => exact ⟨u, rfl⟩
  | error f =>
    obtain ⟨fault, wrong, -⟩ := (read_error_iff text scheme f).mp made
    rw [sound] at wrong
    cases wrong

theorem join_eq {base reference : String} (based : base ≠ "") (referred : reference ≠ "") :
    join base reference = (do
      let b ← read base.toList ""
      let u ← read reference.toList b.scheme
      return resolve b u reference) := by
  unfold join
  rw [if_neg (by simpa using based), if_neg (by simpa using referred)]

theorem join_error_iff (base reference : String) (f : Failure) : join base reference = .error f ↔
    base ≠ "" ∧ reference ≠ "" ∧ Unjoinable base.toList reference.toList f := by
  by_cases based : base = ""
  · subst based
    simp [join]
  by_cases referred : reference = ""
  · subst referred
    simp only [join]
    split <;> simp
  rw [join_eq based referred]
  constructor
  · intro failed
    refine ⟨based, referred, ?_⟩
    rcases bind_error_iff.mp failed with failed | ⟨b, first, failed⟩
    · obtain ⟨fault, wrong, rfl⟩ := (read_error_iff _ _ f).mp failed
      exact .base wrong
    · rcases bind_error_iff.mp failed with failed | ⟨u, -, never⟩
      · obtain ⟨fault, wrong, rfl⟩ := (read_error_iff _ _ f).mp failed
        exact .reference (sound_of_read first) wrong
      · cases never
  · rintro ⟨-, -, unjoinable⟩
    rw [bind_error_iff]
    cases unjoinable with
    | base wrong => exact .inl ((read_error_iff _ _ _).mpr ⟨_, wrong, rfl⟩)
    | reference sound wrong =>
      obtain ⟨b, first⟩ := read_of_sound sound ""
      refine .inr ⟨b, first, bind_error_iff.mpr (.inl ?_)⟩
      exact (read_error_iff _ _ _).mpr ⟨_, wrong, rfl⟩

end PageHarvest.Url
