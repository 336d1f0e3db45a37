import HostStorage.Proofs.Host.Walk

/-!
# Entries of a directory

A directory has the entries at the places one name below it, and these are what is told of its path
(`mem_names_iff`). They are told in order, so that the first of them with a property is the least
one by name (`InOrder.find?_eq_some_iff`).
-/
namespace HostStorage.HostTree

open HostStorage.Path (Name Place)

/-- A path leads to a directory that has an entry of this name. -/
def HasEntry (t : HostTree) (directory name : String) : Prop :=
  ∃ place, t.resolve true directory = .ok place ∧ t.node? place = some .directory ∧
    (t.node? (place ++ [name.toList])).isSome

/-- The first entry of a directory, by name, of those whose names start with a text. -/
structure FirstEntry (t : HostTree) (directory start name : String) : Prop where
  isEntry : t.HasEntry directory name
  starts : start.toList <+: name.toList
  least : ∀ other, t.HasEntry directory other → start.toList <+: other.toList →
    nameLe name.toList other.toList = true

theorem nameLe_refl (a : Name) : nameLe a a = true := by
  have total := nameLe_total a a
  rwa [Bool.or_self] at total

/-- A name with a property is the first one in an ordered list if no other such name is before it
in order. -/
theorem InOrder.find?_eq_some_iff {names : List String} (inOrder : InOrder names)
    {p : String → Bool} {name : String} :
    names.find? p = some name ↔ name ∈ names ∧ p name = true ∧
      ∀ other ∈ names, p other = true → nameLe name.toList other.toList = true := by
  have least : ∀ found, names.find? p = some found →
      ∀ other ∈ names, p other = true → nameLe found.toList other.toList = true := by
    intro found isFirst other listed holds
    obtain ⟨-, before, after, rfl, passed⟩ := List.find?_eq_some_iff_append.1 isFirst
    rcases List.mem_append.1 listed with early | late
    · have passedOver := passed other early
      rw [holds] at passedOver
      cases passedOver
    · rcases List.mem_cons.1 late with rfl | later
      · exact nameLe_refl other.toList
      · exact List.rel_of_pairwise_cons (List.pairwise_append.1 inOrder).2.1 later
  constructor
  · intro isFirst
    exact ⟨List.mem_of_find?_eq_some isFirst, List.find?_some isFirst, least name isFirst⟩
  · intro isLeast
    obtain ⟨listed, holds, before⟩ := isLeast
    cases found : names.find? p with
    | none => exact absurd holds (List.find?_eq_none.1 found name listed)
    | some first =>
      have le := least first found name listed holds
      have ge := before first (List.mem_of_find?_eq_some found) (List.find?_some found)
      rw [String.toList_inj.1 (nameLe_antisymm _ _ le ge)]

variable {t : HostTree} {directory name : String} {names : List String}

/-- The names that are told of a directory are those of its entries. -/
theorem mem_names_iff (told : t.names directory = .ok names) :
    name ∈ names ↔ t.HasEntry directory name := by
  obtain ⟨place, reached, isDirectory, -⟩ := (t.names_eq_ok_iff directory names).1 told
  obtain ⟨others, alsoTold, listed⟩ := exists_names_of_directory reached isDirectory
  rw [told] at alsoTold
  cases alsoTold
  rw [listed]
  constructor
  · intro there
    exact ⟨place, reached, isDirectory, there⟩
  · intro isEntry
    obtain ⟨other, alsoReached, -, there⟩ := isEntry
    rw [reached] at alsoReached
    cases alsoReached
    exact there

/-- A directory that has entries is told. -/
theorem HasEntry.exists_names (isEntry : t.HasEntry directory name) :
    ∃ names, t.names directory = .ok names := by
  obtain ⟨place, reached, isDirectory, -⟩ := isEntry
  obtain ⟨names, told, -⟩ := exists_names_of_directory reached isDirectory
  exact ⟨names, told⟩

/-- The first name that is told with a start is that of the first such entry. -/
theorem find?_names_eq_some_iff (told : t.names directory = .ok names) {start : String} :
    names.find? (Text.startsWith · start) = some name ↔ t.FirstEntry directory start name := by
  obtain ⟨-, -, -, -, inOrder⟩ := (t.names_eq_ok_iff directory names).1 told
  simp only [inOrder.find?_eq_some_iff, mem_names_iff told, Text.startsWith,
    List.isPrefixOf_iff_prefix]
  constructor
  · intro isFirst
    exact ⟨isFirst.1, isFirst.2.1, isFirst.2.2⟩
  · intro isFirst
    exact ⟨isFirst.isEntry, isFirst.starts, isFirst.least⟩

end HostStorage.HostTree
