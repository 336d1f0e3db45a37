import HostStorage.Text.Hex
import Mathlib.Data.List.Induction
import Mathlib.Data.Nat.Digits.Defs

/-!
# Written numbers

What is written for a number is read back as that number (`hexNumberFrom?_hexPadded`), so different
numbers are written differently, in decimal (`toString_inj`) and in hexadecimal (`hexPadded_inj`).
Reading takes more than is written, namely digits of either case and zeros in front
(`hexNumber?_eq_some_iff`); the decimal text of a number is the only one without such zeros
(`isDecimal_iff`).
-/
namespace HostStorage.Text

theorem hexValue?_digitChar : ∀ d < 16, hexValue? d.digitChar = some d := by decide

/-- Digits after others are read on. -/
theorem hexNumberFrom?_append (high : Nat) (first second : List Char) :
    hexNumberFrom? high (first ++ second) =
      (hexNumberFrom? high first).bind (hexNumberFrom? · second) := by
  induction first generalizing high with
  | nil => rfl
  | cons c r ih =>
    rw [List.cons_append, hexNumberFrom?, hexNumberFrom?]
    cases hexValue? c with
    | none => rfl
    | some d => exact ih _

/-- A number is read back from its digits. -/
theorem hexNumberFrom?_hex (n : Nat) : hexNumberFrom? 0 (hex n) = some n := by
  induction n using Nat.strongRecOn with
  | ind n ih =>
    rw [hex, Nat.toDigits_eq_if (by decide)]
    split
    next small => simp [hexNumberFrom?, hexValue?_digitChar n small]
    next large =>
      have less : n / 16 < n := Nat.div_lt_self (by omega) (by decide)
      have last := hexValue?_digitChar (n % 16) (Nat.mod_lt n (by decide))
      rw [hexNumberFrom?_append, ← hex, ih _ less]
      simp only [Option.bind_some, hexNumberFrom?, last]
      rw [Nat.div_add_mod']

/-- Zeros in front do not count. -/
theorem hexNumberFrom?_hexPadded (width n : Nat) :
    hexNumberFrom? 0 (hexPadded width n) = some n := by
  have zeros : ∀ k, hexNumberFrom? 0 (List.replicate k '0') = some 0 := by
    intro k
    induction k with
    | zero => rfl
    | succ k ih => exact ih
  rw [hexPadded, hexNumberFrom?_append, zeros]
  exact hexNumberFrom?_hex n

theorem hexPadded_inj {width m n : Nat} (same : hexPadded width m = hexPadded width n) : m = n := by
  have read := hexNumberFrom?_hexPadded width m
  rw [same, hexNumberFrom?_hexPadded] at read
  exact (Option.some.inj read).symm

/-- Nothing but digits is read as a number. -/
theorem isSome_hexValue?_of_mem {high n : Nat} {cs : List Char}
    (read : hexNumberFrom? high cs = some n) {c : Char} (listed : c ∈ cs) :
    (hexValue? c).isSome := by
  induction cs generalizing high with
  | nil => cases listed
  | cons d r ih =>
    rw [hexNumberFrom?] at read
    cases value : hexValue? d with
    | none => simp [value] at read
    | some v =>
      rw [value] at read
      rcases List.mem_cons.1 listed with rfl | later
      · simp [value]
      · exact ih read later

theorem isSome_hexValue?_of_mem_hexPadded {width n : Nat} {c : Char}
    (listed : c ∈ hexPadded width n) : (hexValue? c).isSome :=
  isSome_hexValue?_of_mem (hexNumberFrom?_hexPadded width n) listed

theorem toString_inj {m n : Nat} (same : toString m = toString n) : m = n := by
  rw [Nat.toString_eq_ofList_toDigits, Nat.toString_eq_ofList_toDigits, String.ofList_inj] at same
  calc m = Nat.ofDigitChars 10 (Nat.toDigits 10 m) 0 := Nat.ofDigitChars_ten_toDigits.symm
    _ = Nat.ofDigitChars 10 (Nat.toDigits 10 n) 0 := by rw [same]
    _ = n := Nat.ofDigitChars_ten_toDigits

theorem isDigit_of_mem_toString {n : Nat} {c : Char} (listed : c ∈ (toString n).toList) :
    c.isDigit = true := by
  rw [Nat.toString_eq_ofList_toDigits, String.toList_ofList] at listed
  exact Nat.isDigit_of_mem_toDigits (by decide) (by decide) listed

/-! ## Hexadecimal digits of either case -/

/-- A character and the digit that it writes in hexadecimal, in either case. -/
def IsHexDigit (c : Char) (d : Nat) : Prop :=
  d < 16 ∧ (c = d.digitChar ∨ c = d.digitChar.toUpper)

instance (c : Char) (d : Nat) : Decidable (IsHexDigit c d) :=
  inferInstanceAs (Decidable (_ ∧ _))

/-- Characters that write a number in hexadecimal, the most significant digit first. -/
def WritesHex (cs : List Char) (n : Nat) : Prop :=
  cs ≠ [] ∧ ∃ digits, List.Forall₂ IsHexDigit cs digits ∧ n = Nat.ofDigits 16 digits.reverse

/-- The characters with a value come early. -/
theorem toNat_lt_of_hexValue? {c : Char} {d : Nat} (value : hexValue? c = some d) :
    c.toNat < 103 := by
  have below : ∀ last : Char, last.toNat < 103 → c ≤ last → c.toNat < 103 :=
    fun last bound notAfter => (UInt32.le_iff_toNat_le.1 notAfter).trans_lt bound
  unfold hexValue? at value
  split at value
  next digit => exact below '9' (by decide) digit.2
  next =>
    split at value
    next small => exact below 'f' (by decide) small.2
    next =>
      split at value
      next capital => exact below 'F' (by decide) capital.2
      next => cases value

theorem hexValue?_eq_some_iff {c : Char} {d : Nat} : hexValue? c = some d ↔ IsHexDigit c d := by
  constructor
  · intro value
    have table : ∀ code < 103, ∀ v ∈ hexValue? (Char.ofNat code),
        IsHexDigit (Char.ofNat code) v := by decide
    have written := table c.toNat (toNat_lt_of_hexValue? value) d
    rw [Char.ofNat_toNat] at written
    exact written value
  · intro written
    obtain ⟨isDigit, small | capital⟩ := written
    · rw [small]
      exact hexValue?_digitChar d isDigit
    · have table : ∀ d < 16, hexValue? d.digitChar.toUpper = some d := by decide
      rw [capital]
      exact table d isDigit

/-- What is read after other digits is what the digits add to them. -/
theorem hexNumberFrom?_eq_some_iff {high n : Nat} {cs : List Char} :
    hexNumberFrom? high cs = some n ↔
      ∃ digits, List.Forall₂ IsHexDigit cs digits ∧
        n = digits.foldl (fun high d => d + 16 * high) high := by
  induction cs generalizing high with
  | nil =>
    rw [hexNumberFrom?, Option.some.injEq]
    constructor
    · intro same
      exact ⟨[], .nil, same.symm⟩
    · intro added
      obtain ⟨_, written, rfl⟩ := added
      cases written
      rfl
  | cons c r ih =>
    rw [hexNumberFrom?]
    constructor
    · intro read
      cases value : hexValue? c with
      | none => simp [value] at read
      | some d =>
        rw [value] at read
        obtain ⟨digits, written, rfl⟩ := ih.1 read
        refine ⟨d :: digits, .cons (hexValue?_eq_some_iff.1 value) written, ?_⟩
        rw [List.foldl_cons, Nat.add_comm d, Nat.mul_comm 16]
    · intro added
      obtain ⟨_, written, rfl⟩ := added
      cases written with
      | @cons _ d _ digits first rest =>
        rw [hexValue?_eq_some_iff.2 first]
        refine ih.2 ⟨digits, rest, ?_⟩
        rw [List.foldl_cons, Nat.add_comm d, Nat.mul_comm 16]

/-- Digits of either case are read as the number that they write, and nothing else is read. -/
theorem hexNumber?_eq_some_iff {cs : List Char} {n : Nat} :
    hexNumber? cs = some n ↔ WritesHex cs n := by
  have value : ∀ digits : List Nat, Nat.ofDigits 16 digits.reverse =
      digits.foldl (fun high d => d + 16 * high) 0 := by
    intro digits
    rw [Nat.ofDigits_eq_foldr, List.foldr_reverse]
    rfl
  unfold hexNumber? WritesHex
  simp only [value]
  cases cs with
  | nil => simp
  | cons c r => simpa using hexNumberFrom?_eq_some_iff

/-! ## Decimal texts -/

/-- The decimal text of a number: digits only, and no zero in front of other digits. -/
structure IsDecimal (text : String) (n : Nat) : Prop where
  notEmpty : text ≠ ""
  digits : ∀ c ∈ text.toList, c.isDigit = true
  noZeroInFront : text.toList.head? = some '0' → text = "0"
  value : Nat.ofDigitChars 10 text.toList 0 = n

/-- Only zero is written with a zero in front. -/
theorem eq_zero_of_head?_toDigits {n : Nat}
    (zero : (Nat.toDigits 10 n).head? = some '0') : n = 0 := by
  induction n using Nat.strongRecOn with
  | ind n ih =>
    rw [Nat.toDigits_eq_if (by decide)] at zero
    split at zero
    next small => exact Nat.digitChar_eq_zero.1 (Option.some.inj zero)
    next large =>
      have less : n / 10 < n := Nat.div_lt_self (by omega) (by decide)
      have first : (Nat.toDigits 10 (n / 10)).head? = some '0' := by
        obtain ⟨c, others, tens⟩ :=
          List.exists_cons_of_ne_nil (Nat.toDigits_ne_nil (n := n / 10) (b := 10))
        rw [tens] at zero ⊢
        exact zero
      have noTens := ih (n / 10) less first
      omega

theorem isDecimal_toString (n : Nat) : IsDecimal (toString n) n := by
  have digits : (toString n).toList = Nat.toDigits 10 n := by
    rw [Nat.toString_eq_ofList_toDigits, String.toList_ofList]
  refine ⟨?_, fun c listed => isDigit_of_mem_toString listed, fun zero => ?_, ?_⟩
  · intro empty
    rw [empty] at digits
    exact Nat.toDigits_ne_nil digits.symm
  · rw [digits] at zero
    rw [eq_zero_of_head?_toDigits zero]
    rfl
  · rw [digits]
    exact Nat.ofDigitChars_ten_toDigits

theorem exists_digitChar_eq {c : Char} (isDigit : c.isDigit = true) :
    ∃ d < 10, c = d.digitChar := by
  have table : ∀ code < 58, 48 ≤ code → Char.ofNat code = (code - 48).digitChar := by decide
  obtain ⟨low, high⟩ := Char.isDigit_iff_toNat.1 isDigit
  have low : 48 ≤ c.toNat := low
  have high : c.toNat ≤ 57 := high
  refine ⟨c.toNat - 48, by omega, ?_⟩
  rw [← table c.toNat (by omega) low, Char.ofNat_toNat]

/-- Digits without a zero in front of others are those of their value. -/
theorem toDigits_ofDigitChars {cs : List Char} (notEmpty : cs ≠ [])
    (digits : ∀ c ∈ cs, c.isDigit = true) (noZeroInFront : cs.head? = some '0' → cs = ['0']) :
    Nat.toDigits 10 (Nat.ofDigitChars 10 cs 0) = cs := by
  induction cs using List.reverseRecOn with
  | nil => exact absurd rfl notEmpty
  | append_singleton before last ih =>
    obtain ⟨d, small, rfl⟩ := exists_digitChar_eq (digits last (by simp))
    rw [Nat.ofDigitChars_append, Nat.ofDigitChars_cons_digitChar_of_lt_ten small,
      Nat.ofDigitChars_nil]
    by_cases single : before = []
    · rw [single, Nat.ofDigitChars_nil, Nat.mul_zero, Nat.zero_add]
      exact Nat.toDigits_of_lt_base small
    · have noZero : before.head? ≠ some '0' := by
        intro zero
        have alone := noZeroInFront (by simp [List.head?_append, zero])
        simp [List.append_eq_singleton_iff, single] at alone
      have tens := ih single (fun c listed => digits c (by simp [listed]))
        fun zero => absurd zero noZero
      have positive : 0 < Nat.ofDigitChars 10 before 0 := by
        apply Nat.pos_of_ne_zero
        intro zero
        rw [zero, Nat.toDigits_zero] at tens
        exact noZero (by rw [← tens]; rfl)
      rw [← Nat.toDigits_append_toDigits (by decide) positive small, tens,
        Nat.toDigits_of_lt_base small]

/-- A number has one decimal text. -/
theorem isDecimal_iff {text : String} {n : Nat} : IsDecimal text n ↔ text = toString n := by
  constructor
  · intro decimal
    obtain ⟨notEmpty, digits, noZeroInFront, rfl⟩ := decimal
    rw [Nat.toString_eq_ofList_toDigits, toDigits_ofDigitChars (by simpa using notEmpty) digits,
      String.ofList_toList]
    intro zero
    rw [noZeroInFront zero]
    rfl
  · intro same
    rw [same]
    exact isDecimal_toString n

end HostStorage.Text
