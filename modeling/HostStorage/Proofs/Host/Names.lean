import HostStorage.Host.Access
import HostStorage.Proofs.Result

/-!
# The names in a directory

Names are ordered by code points, which is a linear order, so the list of the names in a directory
is the only one that has them all in order.
-/
namespace HostStorage

open HostStorage.Path (Name Place)

namespace HostTree

theorem nameLe_cons_iff {c d : Char} {r s : Name} :
    nameLe (c :: r) (d :: s) = true ↔ c.toNat < d.toNat ∨ c = d ∧ nameLe r s = true := by
  simp [nameLe]

theorem nameLe_trans (a b c : Name) (first : nameLe a b = true) (second : nameLe b c = true) :
    nameLe a c = true := by
  induction a generalizing b c with
  | nil => rfl
  | cons x a ih =>
    cases b with
    | nil => cases first
    | cons y b =>
      cases c with
      | nil => cases second
      | cons z c =>
        rw [nameLe_cons_iff] at first second ⊢
        rcases first with less | ⟨rfl, le⟩
        · rcases second with more | ⟨rfl, _⟩
          · exact Or.inl (Nat.lt_trans less more)
          · exact Or.inl less
        · rcases second with more | ⟨rfl, further⟩
          · exact Or.inl more
          · exact Or.inr ⟨rfl, ih b c le further⟩

theorem nameLe_total (a b : Name) : (nameLe a b || nameLe b a) = true := by
  induction a generalizing b with
  | nil => rfl
  | cons x a ih =>
    cases b with
    | nil => rfl
    | cons y b =>
      rw [Bool.or_eq_true, nameLe_cons_iff, nameLe_cons_iff]
      rcases Nat.lt_trichotomy x.toNat y.toNat with less | same | more
      · exact Or.inl (Or.inl less)
      · obtain rfl : x = y := Char.toNat_inj.1 same
        rcases Bool.or_eq_true_iff.1 (ih b) with le | ge
        · exact Or.inl (Or.inr ⟨rfl, le⟩)
        · exact Or.inr (Or.inr ⟨rfl, ge⟩)
      · exact Or.inr (Or.inl more)

theorem nameLe_antisymm (a b : Name) (le : nameLe a b = true) (ge : nameLe b a = true) : a = b := by
  induction a generalizing b with
  | nil =>
    cases b with
    | nil => rfl
    | cons y b => cases ge
  | cons x a ih =>
    cases b with
    | nil => cases le
    | cons y b =>
      rw [nameLe_cons_iff] at le ge
      rcases le with less | ⟨rfl, le⟩
      · rcases ge with more | ⟨rfl, _⟩
        · omega
        · omega
      · rcases ge with more | ⟨_, ge⟩
        · omega
        · rw [ih b le ge]

/-- Names in order, as they are told of a directory. -/
def InOrder (names : List String) : Prop :=
  names.Pairwise fun a b => nameLe a.toList b.toList = true

theorem found_eq_ok_iff (t : HostTree) (place : Place) {n : Node} :
    t.found place = .ok n ↔ t.node? place = some n := by
  unfold found
  cases t.node? place <;> simp

instance (names : List String) : Decidable (InOrder names) :=
  inferInstanceAs (Decidable (names.Pairwise _))

/-- A path leads to a directory whose entries have these names, each as often as it is there, in
order. -/
def Lists (t : HostTree) (path : String) (names : List String) : Prop :=
  ∃ place, t.resolve true path = .ok place ∧ t.node? place = some .directory ∧
    names.Perm ((t.entriesAt place).rootNames.map String.ofList) ∧ InOrder names

theorem inOrder_childNames (t : HostTree) (place : Place) :
    InOrder ((t.childNames place).map String.ofList) := by
  have sorted := List.pairwise_mergeSort nameLe_trans nameLe_total (t.entriesAt place).rootNames
  refine List.pairwise_map.2 (sorted.imp ?_)
  intro a b le
  simpa using le

/-- Names in order are determined by how often each occurs. -/
theorem InOrder.eq_of_perm {first second : List String} (perm : first.Perm second)
    (firstInOrder : InOrder first) (secondInOrder : InOrder second) : first = second := by
  refine List.Perm.eq_of_pairwise ?_ firstInOrder secondInOrder perm
  intro a b _ _ le ge
  exact String.toList_inj.1 (nameLe_antisymm a.toList b.toList le ge)

/-- The names told of a directory are those of its entries in order, and nothing else is told. -/
theorem names_eq_ok_iff (t : HostTree) (path : String) (names : List String) :
    t.names path = .ok names ↔ t.Lists path names := by
  have perm (place : Place) : ((t.childNames place).map String.ofList).Perm
      ((t.entriesAt place).rootNames.map String.ofList) :=
    (List.mergeSort_perm _ _).map _
  constructor
  · intro told
    simp only [HostTree.names, bind_eq_ok_iff] at told
    obtain ⟨place, reached, n, found, told⟩ := told
    cases n with
    | directory =>
      cases told
      exact ⟨place, reached, (found_eq_ok_iff t place).1 found, perm place,
        inOrder_childNames t place⟩
    | _ => cases told
  · rintro ⟨place, reached, directory, all, inOrder⟩
    have same := InOrder.eq_of_perm (all.trans (perm place).symm) inOrder
      (inOrder_childNames t place)
    simp only [HostTree.names, bind_eq_ok_iff]
    exact ⟨place, reached, .directory, (found_eq_ok_iff t place).2 directory, by rw [same]⟩

end HostTree
end HostStorage
