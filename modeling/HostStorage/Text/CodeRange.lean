/-!
# Classes of characters as intervals of code points

A table lists closed intervals of code points. The tables of the sibling modules are data of the
Unicode standard; this module says what belonging to one means.
-/
namespace HostStorage.Text

/-- A table of closed intervals of code points. -/
abbrev CodeRanges := List (Nat × Nat)

def CodeRanges.holds (table : CodeRanges) (c : Char) : Bool :=
  table.any fun r => r.1 ≤ c.toNat && c.toNat ≤ r.2

/-- Membership in a table is membership in one of its intervals. -/
theorem CodeRanges.holds_iff (table : CodeRanges) (c : Char) :
    table.holds c = true ↔ ∃ r ∈ table, r.1 ≤ c.toNat ∧ c.toNat ≤ r.2 := by
  simp [CodeRanges.holds]

end HostStorage.Text
