import HostStorage.Lsblk.Row
import HostStorage.Proofs.Text.Pieces

/-!
# Which rows are selected

Rows are selected by their positions: those that mention an identifier, with the ones directly above
them (`withParents_eq`) or directly below them (`withChildren_eq`). No row is lost and none is
taken twice.
-/
namespace HostStorage

/-- Text with `ancestor`, then at least one character, then the identifier. -/
def HasBelow (ancestor id line : String) : Prop :=
  ∃ before between after, between ≠ [] ∧
    line.toList = before ++ ancestor.toList ++ between ++ id.toList ++ after

namespace DeviceRow

theorem mentions_iff (id : String) (row : DeviceRow) :
    row.mentions id = true ↔ id.toList <:+: row.line.toList :=
  Text.occursIn_iff id.toList row.line.toList

theorem mentionsBelow_iff (ancestor id : String) (row : DeviceRow) :
    row.mentionsBelow ancestor id = true ↔ HasBelow ancestor id row.line := by
  constructor
  · intro below
    rw [mentionsBelow] at below
    split at below
    next before c rest found =>
      obtain ⟨between, after, whole⟩ := (Text.occursIn_iff _ _).1 below
      refine ⟨before, c :: between, after, by simp, ?_⟩
      rw [Text.append_of_cut?_eq_some found, ← whole]
      simp
    next => cases below
  · rintro ⟨before, between, after, notEmpty, whole⟩
    obtain ⟨front, tail, found, follows⟩ :=
      Text.exists_cut?_append ancestor.toList before (between ++ id.toList ++ after)
    have line : row.line.toList =
        before ++ ancestor.toList ++ (between ++ id.toList ++ after) := by
      simp [whole]
    cases between with
    | nil => exact absurd rfl notEmpty
    | cons c between =>
      rw [mentionsBelow, line, found]
      obtain ⟨more, rfl⟩ := follows
      -- Behind the first ancestor there is at least what is behind this one.
      cases more with
      | nil =>
        simp only [List.cons_append, List.nil_append, Text.occursIn_iff]
        exact ⟨between, after, by simp⟩
      | cons d more =>
        simp only [List.cons_append, Text.occursIn_iff]
        exact ⟨more ++ c :: between, after, by simp⟩

instance (ancestor id line : String) : Decidable (HasBelow ancestor id line) :=
  decidable_of_iff _ (mentionsBelow_iff ancestor id { line })

/-! ## Rows by position -/

def mentionedAt (id : String) (rows : List DeviceRow) (i : Nat) : Bool :=
  (rows[i]?).any (mentions id)

theorem mentionedAt_iff {id : String} {rows : List DeviceRow} {i : Nat} :
    mentionedAt id rows i = true ↔
      ∃ row, rows[i]? = some row ∧ id.toList <:+: row.line.toList := by
  simp only [mentionedAt, Option.any_eq_true, mentions_iff]

/-- The rows at the positions that satisfy `p`, in order. -/
def rowsAt (rows : List DeviceRow) (p : Nat → Bool) : List DeviceRow :=
  ((List.range rows.length).filter p).filterMap (rows[·]?)

theorem rowsAt_cons (row : DeviceRow) (rest : List DeviceRow) (p : Nat → Bool) :
    rowsAt (row :: rest) p = (if p 0 then [row] else []) ++ rowsAt rest fun i => p (i + 1) := by
  rw [rowsAt, List.length_cons, List.range_succ_eq_map, List.filter_cons, List.filter_map]
  have tail : List.filterMap ((row :: rest)[·]?)
      (((List.range rest.length).filter (p ∘ Nat.succ)).map Nat.succ) =
        rowsAt rest fun i => p (i + 1) := by
    rw [List.filterMap_map]
    rfl
  split
  next first => rw [List.filterMap_cons, tail]; rfl
  next => exact tail

theorem mem_rowsAt_iff {rows : List DeviceRow} {p : Nat → Bool} {row : DeviceRow} :
    row ∈ rowsAt rows p ↔ ∃ i, rows[i]? = some row ∧ p i = true := by
  simp only [rowsAt, List.mem_filterMap, List.mem_filter, List.mem_range]
  constructor
  · rintro ⟨i, ⟨-, chosen⟩, here⟩
    exact ⟨i, here, chosen⟩
  · rintro ⟨i, here, chosen⟩
    exact ⟨i, ⟨(List.getElem?_eq_some_iff.1 here).1, chosen⟩, here⟩

/-- The first selected row with a property stands behind no other such row. -/
theorem find?_rowsAt_eq_some_iff {rows : List DeviceRow} {p : Nat → Bool} {q : DeviceRow → Bool}
    {row : DeviceRow} :
    (rowsAt rows p).find? q = some row ↔ ∃ i, (rows[i]? = some row ∧ p i = true ∧ q row = true) ∧
      ∀ k < i, ∀ other, ¬ (rows[k]? = some other ∧ p k = true ∧ q other = true) := by
  have chosen : ∀ k, (p k = true ∧ (rows[k]?).any q = true) ↔
      ∃ other, rows[k]? = some other ∧ p k = true ∧ q other = true := by
    intro k
    simp only [Option.any_eq_true]
    constructor
    · rintro ⟨near, other, here, holds⟩
      exact ⟨other, here, near, holds⟩
    · rintro ⟨other, here, near, holds⟩
      exact ⟨near, other, here, holds⟩
  rw [rowsAt, List.find?_filterMap, List.find?_filter, Option.bind_eq_some_iff]
  simp only [List.find?_range_eq_some, chosen, Bool.not_eq_true', decide_eq_false_iff_not,
    decide_eq_true_eq, not_exists, List.mem_range]
  constructor
  · rintro ⟨i, ⟨⟨other, same, near, holds⟩, -, before⟩, here⟩
    rw [here] at same
    cases same
    exact ⟨i, ⟨here, near, holds⟩, before⟩
  · rintro ⟨i, ⟨here, near, holds⟩, before⟩
    exact ⟨i, ⟨⟨row, here, near, holds⟩, (List.getElem?_eq_some_iff.1 here).1, before⟩, here⟩

def mentionedOrAbove (id : String) (rows : List DeviceRow) (i : Nat) : Bool :=
  mentionedAt id rows i || mentionedAt id rows (i + 1)

def mentionedOrBelow (id : String) (rows : List DeviceRow) (i : Nat) : Bool :=
  mentionedAt id rows i || (0 < i && mentionedAt id rows (i - 1))

variable (id : String)

/-- The row above comes with the first row, if that is mentioned and the row above is not. -/
theorem withParents_append (above : Option DeviceRow) (rows : List DeviceRow) :
    withParents id above rows =
      (if mentionedAt id rows 0 then (above.filter (!mentions id ·)).toList else []) ++
        rowsAt rows (mentionedOrAbove id rows) := by
  induction rows generalizing above with
  | nil => simp [withParents, mentionedAt, rowsAt]
  | cons row rest ih =>
    have here : mentionedAt id (row :: rest) 0 = row.mentions id := rfl
    have first : mentionedOrAbove id (row :: rest) 0 =
        (row.mentions id || mentionedAt id rest 0) := rfl
    have later : (fun i => mentionedOrAbove id (row :: rest) (i + 1)) = mentionedOrAbove id rest :=
      rfl
    rw [withParents, ih, rowsAt_cons, later, first, here]
    cases mentioned : row.mentions id with
    | true => simp [mentioned]
    | false =>
      cases mentionedAt id rest 0 with
      | true => simp [mentioned, Option.filter_some]
      | false => simp

/-- The rows that mention an identifier are taken, with the rows directly above them. -/
theorem withParents_eq (rows : List DeviceRow) :
    withParents id none rows = rowsAt rows (mentionedOrAbove id rows) := by
  rw [withParents_append]
  simp

/-- While a row is still to be taken, the first row is taken even if it is not mentioned. -/
theorem withChildren_eq_rowsAt (due : Bool) (rows : List DeviceRow) :
    withChildren id due.toNat rows =
      rowsAt rows fun i => mentionedOrBelow id rows i || (due && i == 0) := by
  induction rows generalizing due with
  | nil => rfl
  | cons row rest ih =>
    have first : mentionedOrBelow id (row :: rest) 0 = row.mentions id := by
      simp [mentionedOrBelow, mentionedAt]
    -- The row after a mentioned one is still to be taken.
    have later : (fun i => mentionedOrBelow id (row :: rest) (i + 1) || (due && i + 1 == 0)) =
        fun i => mentionedOrBelow id rest i || (row.mentions id && i == 0) := by
      funext i
      cases i <;> simp [mentionedOrBelow, mentionedAt]
    rw [withChildren, rowsAt_cons, later, first, ← ih]
    cases mentioned : row.mentions id with
    | true => simp
    | false => cases due <;> simp

/-- The rows that mention an identifier are taken, with the rows directly below them. -/
theorem withChildren_eq (rows : List DeviceRow) :
    withChildren id 0 rows = rowsAt rows (mentionedOrBelow id rows) := by
  have all := withChildren_eq_rowsAt id false rows
  simpa using all

end DeviceRow
end HostStorage
