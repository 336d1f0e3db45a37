import HostStorage.Proofs.Lsblk.Row
import Mathlib.Data.List.Sort

/-!
# Selections of rows and their mirror images

A selection is told by positions: all those with a property, in order and each once. There is one
such selection (`IsSelection.unique`), and backwards it is a selection from the listing read
backwards (`IsSelection.reverse`). The rows that mention an identifier, with the rows directly above
them or with those directly below them, are selections of this kind and mirror images of each other
(`selections_mirrored`).
-/
namespace HostStorage.DeviceRow

/-- Rows are taken from the positions with a property, in order and from each position once. -/
structure TakenFrom (rows : List DeviceRow) (chosen : Nat → Prop) (positions : List Nat)
    (taken : List DeviceRow) : Prop where
  inOrder : positions.Pairwise (· < ·)
  exactly : ∀ i, i ∈ positions ↔ i < rows.length ∧ chosen i
  there : taken.map some = positions.map (rows[·]?)

/-- The rows at the positions with a property, in order and each position once. -/
def IsSelection (rows : List DeviceRow) (chosen : Nat → Prop) (taken : List DeviceRow) : Prop :=
  ∃ positions, TakenFrom rows chosen positions taken

/-- A position has a row whose line mentions an identifier. -/
def HasMention (id : String) (rows : List DeviceRow) (i : Nat) : Prop :=
  ∃ row, rows[i]? = some row ∧ id.toList <:+: row.line.toList

/-! ## Selections -/

variable {rows taken : List DeviceRow} {chosen : Nat → Prop}

theorem isSelection_rowsAt (rows : List DeviceRow) (p : Nat → Bool) :
    IsSelection rows (p · = true) (rowsAt rows p) := by
  refine ⟨(List.range rows.length).filter p, List.pairwise_lt_range.filter p, ?_, ?_⟩
  · intro i
    rw [List.mem_filter, List.mem_range]
  · have listed : ∀ found ∈ ((List.range rows.length).filter p).map (rows[·]?),
        found.isSome = true := by
      intro found here
      obtain ⟨i, chosen, rfl⟩ := List.mem_map.1 here
      have inside := List.mem_range.1 (List.mem_of_mem_filter chosen)
      rw [List.getElem?_eq_getElem inside, Option.isSome_some]
    rw [rowsAt, List.map_filterMap_some_eq_filter_map_isSome, List.filter_eq_self.2 listed]

/-- The positions of a selection are determined, and so are its rows. -/
theorem IsSelection.unique {other : List DeviceRow} (selection : IsSelection rows chosen taken)
    (also : IsSelection rows chosen other) : taken = other := by
  obtain ⟨positions, here⟩ := selection
  obtain ⟨positions', there⟩ := also
  have same : positions = positions' := by
    refine here.inOrder.eq_of_mem_iff there.inOrder fun i => ?_
    rw [here.exactly, there.exactly]
  subst same
  exact List.map_injective_iff.2 (Option.some_injective _) (here.there.trans there.there.symm)

/-- Only the positions of rows count. -/
theorem IsSelection.congr {chosen' : Nat → Prop} (selection : IsSelection rows chosen taken)
    (same : ∀ i < rows.length, chosen i ↔ chosen' i) : IsSelection rows chosen' taken := by
  obtain ⟨positions, here⟩ := selection
  refine ⟨positions, here.inOrder, fun i => ?_, here.there⟩
  rw [here.exactly]
  exact and_congr_right (same i)

/-- Backwards, a selection is one of the rows read backwards. -/
theorem IsSelection.reverse (selection : IsSelection rows chosen taken) :
    IsSelection rows.reverse (fun i => chosen (rows.length - 1 - i)) taken.reverse := by
  obtain ⟨positions, here⟩ := selection
  have inside : ∀ i ∈ positions, i < rows.length := fun i listed => ((here.exactly i).1 listed).1
  refine ⟨(positions.map (rows.length - 1 - ·)).reverse, ?_, fun i => ?_, ?_⟩
  · rw [List.pairwise_reverse, List.pairwise_map]
    refine here.inOrder.imp_of_mem fun {a b} _ later less => ?_
    have := inside b later
    omega
  · rw [List.mem_reverse, List.mem_map, List.length_reverse]
    constructor
    · rintro ⟨k, listed, rfl⟩
      obtain ⟨small, isChosen⟩ := (here.exactly k).1 listed
      have back : rows.length - 1 - (rows.length - 1 - k) = k := by omega
      exact ⟨by omega, back.symm ▸ isChosen⟩
    · rintro ⟨small, isChosen⟩
      exact ⟨rows.length - 1 - i, (here.exactly _).2 ⟨by omega, isChosen⟩, by omega⟩
  · rw [List.map_reverse, List.map_reverse, List.map_map, here.there]
    refine congrArg List.reverse (List.map_congr_left fun i listed => ?_)
    have small := inside i listed
    rw [Function.comp_apply, List.getElem?_reverse (by omega)]
    exact congrArg (rows[·]?) (by omega)

/-! ## Rows near a mention -/

theorem isSelection_withParents (id : String) (rows : List DeviceRow) :
    IsSelection rows (fun i => HasMention id rows i ∨ HasMention id rows (i + 1))
      (withParents id none rows) := by
  rw [withParents_eq]
  refine (isSelection_rowsAt rows _).congr fun i _ => ?_
  rw [mentionedOrAbove, Bool.or_eq_true_iff, mentionedAt_iff, mentionedAt_iff]
  rfl

theorem isSelection_withChildren (id : String) (rows : List DeviceRow) :
    IsSelection rows (fun i => HasMention id rows i ∨ 0 < i ∧ HasMention id rows (i - 1))
      (withChildren id 0 rows) := by
  rw [withChildren_eq]
  refine (isSelection_rowsAt rows _).congr fun i _ => ?_
  rw [mentionedOrBelow, Bool.or_eq_true_iff, Bool.and_eq_true_iff, decide_eq_true_iff,
    mentionedAt_iff, mentionedAt_iff]
  rfl

variable {id : String}

/-- The mentions of the rows read backwards. -/
theorem hasMention_reverse_iff {i : Nat} (small : i < rows.length) :
    HasMention id rows.reverse i ↔ HasMention id rows (rows.length - 1 - i) := by
  rw [HasMention, HasMention, List.getElem?_reverse small]

/-- No row mentions anything behind the last position. -/
theorem HasMention.lt {i : Nat} (mention : HasMention id rows i) : i < rows.length := by
  obtain ⟨row, here, -⟩ := mention
  exact (List.getElem?_eq_some_iff.1 here).1

/-- The row directly below is the one directly above in the rows read backwards. -/
theorem hasMention_below_iff {i : Nat} (small : i < rows.length) :
    HasMention id rows (rows.length - 1 - i + 1) ↔
      0 < i ∧ HasMention id rows.reverse (i - 1) := by
  cases i with
  | zero =>
    -- Nothing is below the last row.
    refine iff_of_false (fun below => ?_) fun ⟨later, _⟩ => Nat.lt_irrefl 0 later
    have inside := below.lt
    omega
  | succ i =>
    have next : rows.length - 1 - (i + 1) + 1 = rows.length - 1 - i := by omega
    rw [next, Nat.add_sub_cancel, hasMention_reverse_iff (by omega)]
    exact (and_iff_right (Nat.succ_pos i)).symm

/-- `withParents` takes exactly the rows that mention the identifier or have a mention directly
below them, and `withChildren` exactly those that mention it or have a mention directly above them:
in order, and each position once. So what `withChildren` takes from the rows read backwards is what
`withParents` takes, read backwards. -/
theorem selections_mirrored (id : String) (rows : List DeviceRow) :
    (∀ taken, withParents id none rows = taken ↔
      IsSelection rows (fun i => HasMention id rows i ∨ HasMention id rows (i + 1)) taken) ∧
    (∀ taken, withChildren id 0 rows = taken ↔
      IsSelection rows (fun i => HasMention id rows i ∨ 0 < i ∧ HasMention id rows (i - 1))
        taken) ∧
    withChildren id 0 rows.reverse = (withParents id none rows).reverse := by
  have parents := isSelection_withParents id rows
  have children := isSelection_withChildren id rows
  refine ⟨fun taken => ⟨fun same => same ▸ parents, parents.unique⟩,
    fun taken => ⟨fun same => same ▸ children, children.unique⟩, ?_⟩
  -- Both sides are selections from the rows read backwards, at the same positions.
  refine (isSelection_withChildren id rows.reverse).unique (parents.reverse.congr fun i small => ?_)
  rw [List.length_reverse] at small
  rw [hasMention_reverse_iff small, hasMention_below_iff small]

/-- The row `d` stands below one mention and above another, and is taken once. -/
example : (withParents "7:0" none (["a", "7:0 b", "7:0 c", "d", "7:0 e"].map ofLine)).map (·.line) =
    ["a", "7:0 b", "7:0 c", "d", "7:0 e"] := by
  decide +kernel

end HostStorage.DeviceRow
