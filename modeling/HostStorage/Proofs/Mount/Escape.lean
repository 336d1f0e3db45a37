import HostStorage.Mount.Octal
import HostStorage.Proofs.Text.Utf8
import HostStorage.Text.Blank

/-!
# Writing octal escapes

A writer replaces characters by the escapes of all their octets and copies the others. Which ones
it copies is its own choice, as long as it never copies a backslash: whatever text follows, decoding
gives back what was written (`decode_append_of_writes`).
-/
namespace HostStorage.Octal

/-- The escape of an octet: a backslash and three octal digits. -/
def escapeOctet (b : UInt8) : List Char :=
  ['\\', Nat.digitChar (b.toNat / 64), Nat.digitChar (b.toNat / 8 % 8), Nat.digitChar (b.toNat % 8)]

/-- The escape of a character: the escapes of all its octets. -/
def escape (c : Char) : List Char := (Utf8.encodeChar c).flatMap escapeOctet

/-- A text is written with escapes: each character is escaped, or copied if `copies` allows it. -/
inductive Writes (copies : Char → Bool) : List Char → List Char → Prop where
  | nil : Writes copies [] []
  | copied {c : Char} {cs written : List Char} (allowed : copies c = true)
      (rest : Writes copies cs written) : Writes copies (c :: cs) (c :: written)
  | escaped {c : Char} {cs written : List Char} (rest : Writes copies cs written) :
      Writes copies (c :: cs) (escape c ++ written)

/-- The writing of a text that escapes all characters but those that `keeps` names. -/
def writeKeeping (keeps : Char → Bool) (cs : List Char) : List Char :=
  cs.flatMap fun c => if keeps c then [c] else escape c

/-- The characters that may be copied into a field of a line: neither blanks nor the backslash. -/
def isPlain (c : Char) : Bool := c != '\\' && !Text.isBlank c

/-! ## Decoding octets -/

/-- A backslash and three digits. -/
def numeral (a b c : Nat) : List Char :=
  ['\\', Nat.digitChar a, Nat.digitChar b, Nat.digitChar c]

def digitOctet (n : Nat) : UInt8 := (0x30 + n).toUInt8

theorem encodeChar_digitChar : ∀ n < 10, Utf8.encodeChar (Nat.digitChar n) = [digitOctet n] := by
  decide

theorem digit?_digitOctet : ∀ n < 8, digit? (digitOctet n) = some n := by
  decide

theorem encode_numeral {a b c : Nat} (high : a < 10) (middle : b < 10) (low : c < 10) :
    Utf8.encode (numeral a b c) = [mark, digitOctet a, digitOctet b, digitOctet c] := by
  simp only [Utf8.encode, numeral, List.flatMap_cons, List.flatMap_nil,
    encodeChar_digitChar _ high, encodeChar_digitChar _ middle, encodeChar_digitChar _ low]
  rfl

theorem encode_escapeOctet (b : UInt8) :
    Utf8.encode (escapeOctet b) = [mark, digitOctet (b.toNat / 64),
      digitOctet (b.toNat / 8 % 8), digitOctet (b.toNat % 8)] := by
  have small := b.toNat_lt
  exact encode_numeral (by omega) (by omega) (by omega)

/-- The digits of an escape write its octet. -/
theorem octet?_digitOctets (b : UInt8) :
    octet? (digitOctet (b.toNat / 64)) (digitOctet (b.toNat / 8 % 8)) (digitOctet (b.toNat % 8)) =
      some b := by
  have high : b.toNat / 64 < 8 := by have := b.toNat_lt; omega
  have middle : b.toNat / 8 % 8 < 8 := Nat.mod_lt _ (by decide)
  have low : b.toNat % 8 < 8 := Nat.mod_lt _ (by decide)
  have value : b.toNat / 64 * 64 + b.toNat / 8 % 8 * 8 + b.toNat % 8 = b.toNat := by omega
  simp only [octet?, digit?_digitOctet _ high, digit?_digitOctet _ middle,
    digit?_digitOctet _ low, value, b.toNat_lt, if_true]
  exact congrArg some UInt8.ofNat_toNat

/-- An octet other than the backslash stands for itself. -/
theorem decodeBytes_cons_of_ne {b : UInt8} (other : b ≠ mark) (rest : Bytes) :
    decodeBytes (b :: rest) = b :: decodeBytes rest := by
  match rest with
  | [] => rfl
  | [_] => rfl
  | [_, _] => rfl
  | _ :: _ :: _ :: _ => rw [decodeBytes, if_neg other]

/-- The escape of an octet is read as that octet. -/
theorem decodeBytes_escapeOctet_append (b : UInt8) (rest : Bytes) :
    decodeBytes (Utf8.encode (escapeOctet b) ++ rest) = b :: decodeBytes rest := by
  rw [encode_escapeOctet]
  simp only [List.cons_append, List.nil_append]
  rw [decodeBytes, if_pos rfl, octet?_digitOctets]

/-- The escape of a character is read as its octets. -/
theorem decodeBytes_escape_append (c : Char) (rest : Bytes) :
    decodeBytes (Utf8.encode (escape c) ++ rest) = Utf8.encodeChar c ++ decodeBytes rest := by
  unfold escape
  induction Utf8.encodeChar c with
  | nil => rfl
  | cons b octets ih =>
    rw [List.flatMap_cons, Utf8.encode_append, List.append_assoc, decodeBytes_escapeOctet_append,
      ih]
    rfl

/-- A character other than the backslash stands for itself. -/
theorem decodeBytes_encodeChar_append {c : Char} (other : c ≠ '\\') (rest : Bytes) :
    decodeBytes (Utf8.encodeChar c ++ rest) = Utf8.encodeChar c ++ decodeBytes rest := by
  have unmarked : ∀ b ∈ Utf8.encodeChar c, b ≠ mark := by
    rintro b written rfl
    rcases Utf8.mem_encodeChar written with ⟨_, same⟩ | large
    · exact other (Char.toNat_inj.1 same.symm)
    · exact absurd large (by decide)
  revert unmarked
  induction Utf8.encodeChar c with
  | nil => intro; rfl
  | cons b octets ih =>
    intro unmarked
    rw [List.cons_append, decodeBytes_cons_of_ne (unmarked b List.mem_cons_self),
      ih fun b listed => unmarked b (List.mem_cons_of_mem _ listed)]
    rfl

/-! ## Decoding texts -/

variable {copies : Char → Bool} {cs written : List Char}

theorem decodeBytes_of_writes (backslash : copies '\\' = false) (writes : Writes copies cs written)
    (rest : Bytes) :
    decodeBytes (Utf8.encode written ++ rest) = Utf8.encode cs ++ decodeBytes rest := by
  induction writes with
  | nil => rfl
  | @copied c cs written allowed _ ih =>
    have other : c ≠ '\\' := by
      rintro rfl
      rw [backslash] at allowed
      cases allowed
    change decodeBytes (Utf8.encodeChar c ++ Utf8.encode written ++ rest) = _
    rw [List.append_assoc, decodeBytes_encodeChar_append other, ih, ← List.append_assoc]
    rfl
  | @escaped c cs written _ ih =>
    rw [Utf8.encode_append, List.append_assoc, decodeBytes_escape_append, ih, ← List.append_assoc]
    rfl

/-- What was written with escapes is given back, whatever follows it. -/
theorem decode_append_of_writes (backslash : copies '\\' = false)
    (writes : Writes copies cs written) (rest : List Char) :
    decode (written ++ rest) = cs ++ decode rest := by
  rw [decode, Utf8.encode_append, decodeBytes_of_writes backslash writes,
    Utf8.decodeLossy_encode_append]
  rfl

theorem decode_of_writes (backslash : copies '\\' = false) (writes : Writes copies cs written) :
    decode written = cs := by
  have whole := decode_append_of_writes backslash writes []
  have nothing : decode [] = [] := by
    rw [decode]
    change Utf8.decodeLossy [] = []
    rw [Utf8.decodeLossy]
  rwa [nothing, List.append_nil, List.append_nil] at whole

/-! ## The writing of a text -/

theorem writes_writeKeeping {keeps : Char → Bool} (allowed : ∀ c, keeps c = true → copies c = true)
    (cs : List Char) : Writes copies cs (writeKeeping keeps cs) := by
  induction cs with
  | nil => exact .nil
  | cons c r ih =>
    rw [writeKeeping, List.flatMap_cons]
    split
    next kept => exact .copied (allowed c kept) ih
    next => exact .escaped ih

theorem escape_ne_nil (c : Char) : escape c ≠ [] := by
  obtain ⟨b, octets, first⟩ := Utf8.exists_encodeChar_eq_cons c
  rw [escape, first]
  exact List.cons_ne_nil _ _

/-- An escape has no blanks. -/
theorem not_isBlank_of_mem_escape {c d : Char} (listed : d ∈ escape c) :
    Text.isBlank d = false := by
  have digit : ∀ n < 8, Text.isBlank (Nat.digitChar n) = false := by decide
  obtain ⟨b, -, here⟩ := List.mem_flatMap.1 listed
  have small : b.toNat < 256 := b.toNat_lt
  simp only [escapeOctet, List.mem_cons, List.not_mem_nil, or_false] at here
  rcases here with rfl | rfl | rfl | rfl
  · rfl
  · exact digit _ (by omega)
  · exact digit _ (by omega)
  · exact digit _ (by omega)

theorem Writes.ne_nil (writes : Writes copies cs written) (notEmpty : cs ≠ []) : written ≠ [] := by
  cases writes with
  | nil => exact notEmpty
  | copied => exact List.cons_ne_nil _ _
  | @escaped c => exact List.append_ne_nil_of_left_ne_nil (escape_ne_nil c) _

/-- The blanks of a writing are copied. -/
theorem Writes.copies_of_isBlank (writes : Writes copies cs written) {d : Char}
    (listed : d ∈ written) (blank : Text.isBlank d = true) : copies d = true ∧ d ∈ cs := by
  induction writes with
  | nil => cases listed
  | copied allowed _ ih =>
    rcases List.mem_cons.1 listed with rfl | later
    · exact ⟨allowed, List.mem_cons_self⟩
    · exact ⟨(ih later).1, List.mem_cons_of_mem _ (ih later).2⟩
  | escaped _ ih =>
    rcases List.mem_append.1 listed with here | later
    · rw [not_isBlank_of_mem_escape here] at blank
      cases blank
    · exact ⟨(ih later).1, List.mem_cons_of_mem _ (ih later).2⟩

end HostStorage.Octal
