import HostStorage.Proofs.Text.Numbers
import HostStorage.Scsi.Lun

/-!
# Which unit a text names

A unit is given in hexadecimal, in digits of either case and maybe with a sign, and is passed
on in decimal. Every text that names no unit below 2³¹ becomes the wildcard
(`normalized_tells_unit`), so what is passed on depends on the named unit alone and not on its
spelling.
-/
namespace HostStorage.Lun

open HostStorage.Text (WritesHex IsDecimal hexNumber?_eq_some_iff)

/-- A sign that may stand in front of a number: a minus in front of zero only. -/
def IsSignOf (sign : List Char) (n : Nat) : Prop :=
  sign = [] ∨ sign = ['+'] ∨ sign = ['-'] ∧ n = 0

/-- A text names a unit: its digits, which may follow a sign, write a number below 2³¹. -/
def Names (lun : String) (n : Nat) : Prop :=
  ∃ sign digits, lun.toList = sign ++ digits ∧ IsSignOf sign n ∧ WritesHex digits n ∧ n < 2 ^ 31

theorem Names.lt {lun : String} {n : Nat} (names : Names lun n) : n < 2 ^ 31 := by
  obtain ⟨_, _, _, _, _, small⟩ := names
  exact small

/-- A sign is no digit. -/
theorem not_writesHex_cons {c : Char} (sign : c = '-' ∨ c = '+') (rest : List Char) (n : Nat) :
    ¬ WritesHex (c :: rest) n := by
  rw [← hexNumber?_eq_some_iff]
  rcases sign with rfl | rfl <;> simp [Text.hexNumber?, Text.hexNumberFrom?, Text.hexValue?]

/-- The three ways of naming a unit: without a sign, with a plus, and zero with a minus. -/
theorem names_iff {lun : String} {n : Nat} :
    Names lun n ↔ WritesHex lun.toList n ∧ n < 2 ^ 31 ∨
      (∃ digits, lun.toList = '+' :: digits ∧ WritesHex digits n ∧ n < 2 ^ 31) ∨
      ∃ digits, lun.toList = '-' :: digits ∧ WritesHex digits n ∧ n = 0 := by
  constructor
  · intro names
    obtain ⟨sign, digits, whole, isSign, written, small⟩ := names
    rcases isSign with rfl | rfl | ⟨rfl, zero⟩
    · exact Or.inl ⟨whole ▸ written, small⟩
    · exact Or.inr (Or.inl ⟨digits, whole, written, small⟩)
    · exact Or.inr (Or.inr ⟨digits, whole, written, zero⟩)
  · intro ways
    rcases ways with ⟨written, small⟩ | ⟨digits, whole, written, small⟩ |
      ⟨digits, whole, written, zero⟩
    · exact ⟨[], lun.toList, rfl, Or.inl rfl, written, small⟩
    · exact ⟨['+'], digits, whole, Or.inr (Or.inl rfl), written, small⟩
    · exact ⟨['-'], digits, whole, Or.inr (Or.inr ⟨rfl, zero⟩), written, by omega⟩

/-- Parsing finds the named unit. -/
theorem parse?_eq_some_iff {lun : String} {n : Nat} :
    parse? lun.toList = some n ↔ Names lun n := by
  have bound : limit = 2 ^ 31 := by decide
  rw [names_iff]
  unfold parse?
  split
  next rest minus =>
    have unsigned := not_writesHex_cons (Or.inl rfl) rest n
    simp [minus, unsigned, Option.filter_eq_some_iff, hexNumber?_eq_some_iff]
  next rest plus =>
    have unsigned := not_writesHex_cons (Or.inr rfl) rest n
    simp [plus, unsigned, bound, Option.filter_eq_some_iff, hexNumber?_eq_some_iff]
  next noMinus noPlus =>
    have minusless : ∀ digits, lun.toList ≠ '-' :: digits := noMinus
    have plusless : ∀ digits, lun.toList ≠ '+' :: digits := noPlus
    simp [minusless, plusless, bound, Option.filter_eq_some_iff, hexNumber?_eq_some_iff]

/-- A text names at most one unit. -/
theorem Names.unique {lun : String} {m n : Nat} (names : Names lun m) (also : Names lun n) :
    m = n := by
  rw [← parse?_eq_some_iff] at names also
  exact Option.some.inj (names.symm.trans also)

theorem normalized_of_names {lun : String} {n : Nat} (names : Names lun n) :
    normalized lun = toString n := by
  rw [normalized, parse?_eq_some_iff.2 names]

theorem normalized_of_no_name {lun : String} (nameless : ∀ n, ¬ Names lun n) :
    normalized lun = wildcard := by
  have unread : parse? lun.toList = none := by
    rw [Option.eq_none_iff_forall_ne_some]
    intro n read
    exact nameless n (parse?_eq_some_iff.1 read)
  rw [normalized, unread]

/-- The wildcard is no number. -/
theorem not_isDecimal_wildcard (n : Nat) : ¬ IsDecimal wildcard n := by
  intro decimal
  have dash := decimal.digits '-' (by decide)
  exact absurd dash (by decide)

/-- What is passed on is the decimal text of a number exactly if that number is the named unit. -/
theorem isDecimal_normalized_iff (lun : String) (n : Nat) :
    IsDecimal (normalized lun) n ↔ Names lun n := by
  by_cases named : ∃ unit, Names lun unit
  · obtain ⟨unit, names⟩ := named
    rw [normalized_of_names names, Text.isDecimal_iff]
    constructor
    · intro same
      rw [← Text.toString_inj same]
      exact names
    · intro also
      rw [names.unique also]
  · have nameless := not_exists.1 named
    rw [normalized_of_no_name nameless]
    constructor
    · intro decimal
      exact absurd decimal (not_isDecimal_wildcard n)
    · intro names
      exact absurd names (nameless n)

/-- A text that names a unit is passed on as the decimal text of that unit, and every other text as
the wildcard; this leaves the numbers up to 2147483647. Two texts are passed on alike exactly if
they name the same unit or neither names one. -/
theorem normalized_tells_unit (lun : String) :
    (∀ n, IsDecimal (normalized lun) n ↔ Names lun n) ∧
    (normalized lun = "-" ↔ ∀ n, ¬ Names lun n) ∧
    (normalized lun = "-" ∨ ∃ n ≤ 2147483647, IsDecimal (normalized lun) n) ∧
    (∀ other, normalized lun = normalized other ↔ ∀ n, Names lun n ↔ Names other n) := by
  have wild : normalized lun = "-" ↔ ∀ n, ¬ Names lun n := by
    constructor
    · intro isWildcard n names
      rw [← isDecimal_normalized_iff, isWildcard] at names
      exact not_isDecimal_wildcard n names
    · exact normalized_of_no_name
  refine ⟨isDecimal_normalized_iff lun, wild, ?_, fun other => ?_⟩
  · by_cases named : ∃ n, Names lun n
    · obtain ⟨n, names⟩ := named
      have small : n < 2 ^ 31 := names.lt
      exact Or.inr ⟨n, by omega, (isDecimal_normalized_iff lun n).2 names⟩
    · exact Or.inl (wild.2 (not_exists.1 named))
  · constructor
    · intro same n
      rw [← isDecimal_normalized_iff, same, isDecimal_normalized_iff]
    · intro alike
      by_cases named : ∃ n, Names lun n
      · obtain ⟨n, names⟩ := named
        rw [normalized_of_names names, normalized_of_names ((alike n).1 names)]
      · have nameless := not_exists.1 named
        have otherNameless : ∀ n, ¬ Names other n := fun n names => nameless n ((alike n).2 names)
        rw [normalized_of_no_name nameless, normalized_of_no_name otherNameless]

end HostStorage.Lun
