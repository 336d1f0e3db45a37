import HostStorage.Text.Utf8

/-!
# Reading undoes writing

The octets of a text are read back as that text, whatever octets follow
(`decodeLossy_encode_append`). The first octet of a character tells how many follow it; the bounds
on the second octet, which keep overlong forms, surrogates and too large code points out, hold of
what is written because a character is none of these.
-/
namespace HostStorage.Utf8

/-- A character is no surrogate and not above the last code point. -/
theorem toNat_bounds (c : Char) : c.toNat < 0xd800 ∨ 0xdfff < c.toNat ∧ c.toNat < 0x110000 := by
  have valid := c.valid
  rw [UInt32.isValidChar, Nat.isValidChar] at valid
  exact valid

/-! ## Octets of a given value -/

theorem toNat_octet {n : Nat} (small : n < 0x100) : n.toUInt8.toNat = n :=
  UInt8.toNat_ofNat_of_lt' small

theorem toNat_tail {n : Nat} (small : n < 0x40) : (0x80 + n).toUInt8.toNat = 0x80 + n :=
  toNat_octet (by omega)

theorem tailBits_tail {n : Nat} (small : n < 0x40) : tailBits (0x80 + n).toUInt8 = n := by
  have octet := toNat_tail small
  unfold tailBits
  omega

theorem isTail_tail {n : Nat} (small : n < 0x40) : isTail (0x80 + n).toUInt8 = true := by
  simp only [isTail, UInt8.le_iff_toNat_le, toNat_tail small, UInt8.reduceToNat, Bool.and_eq_true,
    decide_eq_true_eq]
  omega

theorem secondFits_tail {b n : Nat} (first : b < 0x100) (small : n < 0x40)
    (long : b = 0xe0 → 0x20 ≤ n) (noSurrogate : b = 0xed → n < 0x20)
    (longer : b = 0xf0 → 0x10 ≤ n) (bounded : b = 0xf4 → n < 0x10) :
    secondFits b.toUInt8 (0x80 + n).toUInt8 = true := by
  simp only [secondFits, ← UInt8.toNat_inj, UInt8.le_iff_toNat_le, toNat_octet first,
    toNat_tail small, isTail_tail small, UInt8.reduceToNat]
  repeat' split
  all_goals simp only [Bool.and_eq_true, decide_eq_true_eq]
  all_goals omega

/-! ## One character, by the number of its octets -/

variable {c : Char} (rest : Bytes)

theorem step_one (short : c.toNat < 0x80) : step c.toNat.toUInt8 rest = .char c rest := by
  have octet := toNat_octet (n := c.toNat) (by omega)
  have first : c.toNat.toUInt8 < 0x80 := by
    rw [UInt8.lt_iff_toNat_lt, octet]
    exact short
  unfold step
  rw [if_pos first, octet, Char.ofNat_toNat]

theorem step_two (long : 0x80 ≤ c.toNat) (short : c.toNat < 0x800) :
    step (0xc0 + c.toNat / 0x40).toUInt8 ((0x80 + c.toNat % 0x40).toUInt8 :: rest) =
      .char c rest := by
  have octet := toNat_octet (n := 0xc0 + c.toNat / 0x40) (by omega)
  have second : c.toNat % 0x40 < 0x40 := Nat.mod_lt _ (by decide)
  have value : (0xc0 + c.toNat / 0x40 - 0xc0) * 0x40 + c.toNat % 0x40 = c.toNat := by omega
  unfold step
  simp only [UInt8.lt_iff_toNat_lt, UInt8.le_iff_toNat_le, octet, UInt8.reduceToNat,
    Bool.and_eq_true, decide_eq_true_eq, isTail_tail second, tailBits_tail second]
  rw [if_neg (by omega), if_pos (by omega), if_pos trivial, value, Char.ofNat_toNat]

theorem step_three (long : 0x800 ≤ c.toNat) (short : c.toNat < 0x10000) :
    step (0xe0 + c.toNat / 0x1000).toUInt8 ((0x80 + c.toNat / 0x40 % 0x40).toUInt8 ::
      (0x80 + c.toNat % 0x40).toUInt8 :: rest) = .char c rest := by
  have bounds := toNat_bounds c
  have octet := toNat_octet (n := 0xe0 + c.toNat / 0x1000) (by omega)
  have second : c.toNat / 0x40 % 0x40 < 0x40 := Nat.mod_lt _ (by decide)
  have third : c.toNat % 0x40 < 0x40 := Nat.mod_lt _ (by decide)
  have fits : secondFits (0xe0 + c.toNat / 0x1000).toUInt8
      (0x80 + c.toNat / 0x40 % 0x40).toUInt8 = true := by
    apply secondFits_tail <;> omega
  have value : (0xe0 + c.toNat / 0x1000 - 0xe0) * 0x1000 + c.toNat / 0x40 % 0x40 * 0x40 +
      c.toNat % 0x40 = c.toNat := by omega
  unfold step
  simp only [UInt8.lt_iff_toNat_lt, UInt8.le_iff_toNat_le, octet, UInt8.reduceToNat,
    Bool.and_eq_true, decide_eq_true_eq, fits, isTail_tail third, tailBits_tail second,
    tailBits_tail third]
  rw [if_neg (by omega), if_neg (by omega), if_pos (by omega)]
  simp only [Bool.not_true, Bool.false_eq_true, if_false]
  rw [value, Char.ofNat_toNat]

theorem step_four (long : 0x10000 ≤ c.toNat) :
    step (0xf0 + c.toNat / 0x40000).toUInt8 ((0x80 + c.toNat / 0x1000 % 0x40).toUInt8 ::
      (0x80 + c.toNat / 0x40 % 0x40).toUInt8 :: (0x80 + c.toNat % 0x40).toUInt8 :: rest) =
      .char c rest := by
  have bounds := toNat_bounds c
  have octet := toNat_octet (n := 0xf0 + c.toNat / 0x40000) (by omega)
  have second : c.toNat / 0x1000 % 0x40 < 0x40 := Nat.mod_lt _ (by decide)
  have third : c.toNat / 0x40 % 0x40 < 0x40 := Nat.mod_lt _ (by decide)
  have fourth : c.toNat % 0x40 < 0x40 := Nat.mod_lt _ (by decide)
  have fits : secondFits (0xf0 + c.toNat / 0x40000).toUInt8
      (0x80 + c.toNat / 0x1000 % 0x40).toUInt8 = true := by
    apply secondFits_tail <;> omega
  have value : (0xf0 + c.toNat / 0x40000 - 0xf0) * 0x40000 + c.toNat / 0x1000 % 0x40 * 0x1000 +
      c.toNat / 0x40 % 0x40 * 0x40 + c.toNat % 0x40 = c.toNat := by omega
  unfold step
  simp only [UInt8.lt_iff_toNat_lt, UInt8.le_iff_toNat_le, octet, UInt8.reduceToNat,
    Bool.and_eq_true, decide_eq_true_eq, fits, isTail_tail third, isTail_tail fourth,
    tailBits_tail second, tailBits_tail third, tailBits_tail fourth]
  rw [if_neg (by omega), if_neg (by omega), if_neg (by omega), if_pos (by omega)]
  simp only [Bool.not_true, Bool.false_eq_true, if_false]
  rw [value, Char.ofNat_toNat]

/-! ## Whole texts -/

theorem decodeLossy_cons_of_char {b : UInt8} {octets rest : Bytes}
    (read : step b octets = .char c rest) : decodeLossy (b :: octets) = c :: decodeLossy rest := by
  rw [decodeLossy]
  split
  next again =>
    rw [read] at again
    cases again
    rfl
  next broken =>
    rw [read] at broken
    cases broken

/-- The octets of a character are read back as that character. -/
theorem decodeLossy_encodeChar_append (c : Char) (rest : Bytes) :
    decodeLossy (encodeChar c ++ rest) = c :: decodeLossy rest := by
  rw [encodeChar]
  split
  next short => exact decodeLossy_cons_of_char (step_one rest short)
  next long =>
    split
    next short => exact decodeLossy_cons_of_char (step_two rest (Nat.le_of_not_lt long) short)
    next long =>
      split
      next short => exact decodeLossy_cons_of_char (step_three rest (Nat.le_of_not_lt long) short)
      next long => exact decodeLossy_cons_of_char (step_four rest (Nat.le_of_not_lt long))

/-- The octets of a text are read back as that text. -/
theorem decodeLossy_encode_append (cs : List Char) (rest : Bytes) :
    decodeLossy (encode cs ++ rest) = cs ++ decodeLossy rest := by
  induction cs with
  | nil => rfl
  | cons c r ih =>
    rw [encode, List.flatMap_cons, List.append_assoc, decodeLossy_encodeChar_append]
    exact congrArg (c :: ·) ih

@[simp] theorem lossy_bytes (s : String) : lossy (bytes s) = s := by
  have read := decodeLossy_encode_append s.toList []
  simp only [List.append_nil, decodeLossy] at read
  rw [lossy, bytes, read, String.ofList_toList]

theorem encode_append (cs ds : List Char) : encode (cs ++ ds) = encode cs ++ encode ds :=
  List.flatMap_append

theorem exists_encodeChar_eq_cons (c : Char) : ∃ b octets, encodeChar c = b :: octets := by
  rw [encodeChar]
  repeat' split
  all_goals exact ⟨_, _, rfl⟩

/-- Octets below `80` stand for themselves, and all octets of other characters are above. -/
theorem mem_encodeChar {b : UInt8} (written : b ∈ encodeChar c) :
    c.toNat < 0x80 ∧ b.toNat = c.toNat ∨ 0x80 ≤ b.toNat := by
  have bounds := toNat_bounds c
  rw [encodeChar] at written
  split at written
  next short =>
    rw [List.mem_singleton.1 written, toNat_octet (by omega)]
    exact Or.inl ⟨short, rfl⟩
  next =>
    right
    repeat' split at written
    all_goals
      simp only [List.mem_cons, List.not_mem_nil, or_false] at written
      rcases written with rfl | rfl | rfl | rfl
    all_goals rw [toNat_octet (by omega)]; omega

end HostStorage.Utf8
