import HostStorage.Proofs.Mount.Escape

/-!
# The scan of an escaped text

The octets of a text are cut into pieces: the escape of an octet wherever one starts, and else an
octet that stands for itself. The cut leaves no octet out and takes none twice
(`IsScan.octets_eq`), and there is only one (`IsScan.unique`). Decoding reads each piece by itself
(`IsScan.decodeBytes_eq`), so it goes through a text from the left and never looks back: what has
been written with escapes is given back whatever follows it, and a backslash that starts no escape
stays (`decoded_piece_by_piece`).
-/
namespace HostStorage.Octal

/-- A piece of the octets of a text: an octet that stands for itself, or the escape of one. -/
inductive Piece where
  | plain (b : UInt8) | escape (b : UInt8)
  deriving DecidableEq, Repr

def Piece.octets : Piece → Bytes
  | plain b => [b]
  | escape b => Utf8.encode (escapeOctet b)

/-- The octet that a piece stands for. -/
def Piece.value : Piece → UInt8
  | plain b | escape b => b

def StartsEscape (octets : Bytes) : Prop := ∃ b, Utf8.encode (escapeOctet b) <+: octets

/-- Octets are cut into pieces, with an escape wherever one starts. -/
inductive IsScan : Bytes → List Piece → Prop where
  | nil : IsScan [] []
  | plain {b : UInt8} {rest : Bytes} {pieces : List Piece} (verbatim : ¬ StartsEscape (b :: rest))
      (later : IsScan rest pieces) : IsScan (b :: rest) (.plain b :: pieces)
  | escape {b : UInt8} {octets rest : Bytes} {pieces : List Piece}
      (starts : octets = Utf8.encode (escapeOctet b) ++ rest) (later : IsScan rest pieces) :
      IsScan octets (.escape b :: pieces)

/-! ## Escapes -/

theorem digit?_eq_some_iff {b : UInt8} {n : Nat} :
    digit? b = some n ↔ n < 8 ∧ b = digitOctet n := by
  constructor
  · intro read
    unfold digit? at read
    split at read
    next bounds =>
      obtain ⟨low, high⟩ := bounds
      rw [UInt8.le_iff_toNat_le] at low high
      simp only [UInt8.reduceToNat] at low high
      cases read
      refine ⟨by omega, ?_⟩
      rw [digitOctet, Nat.add_sub_cancel' low]
      exact UInt8.ofNat_toNat.symm
    next => cases read
  · rintro ⟨small, rfl⟩
    exact digit?_digitOctet n small

/-- Three octets are read as an octet exactly if they are the digits of its escape. -/
theorem octet?_eq_some_iff {a b c octet : UInt8} :
    octet? a b c = some octet ↔ Utf8.encode (escapeOctet octet) = [mark, a, b, c] := by
  constructor
  · intro read
    unfold octet? at read
    split at read
    next x y z first second third =>
      obtain ⟨-, rfl⟩ := digit?_eq_some_iff.1 first
      obtain ⟨middle, rfl⟩ := digit?_eq_some_iff.1 second
      obtain ⟨low, rfl⟩ := digit?_eq_some_iff.1 third
      dsimp only at read
      split at read
      next small =>
        cases read
        rw [encode_escapeOctet, Utf8.toNat_octet small]
        have high : (x * 64 + y * 8 + z) / 64 = x := by omega
        have second : (x * 64 + y * 8 + z) / 8 % 8 = y := by omega
        have third : (x * 64 + y * 8 + z) % 8 = z := by omega
        rw [high, second, third]
      next => cases read
    next => cases read
  · intro written
    rw [encode_escapeOctet] at written
    cases written
    exact octet?_digitOctets octet

/-- An octet where no escape starts stands for itself. -/
theorem decodeBytes_cons_of_verbatim {b : UInt8} {rest : Bytes}
    (verbatim : ¬ StartsEscape (b :: rest)) : decodeBytes (b :: rest) = b :: decodeBytes rest := by
  by_cases backslash : b = mark
  · subst backslash
    match rest with
    | [] => rfl
    | [_] => rfl
    | [_, _] => rfl
    | x :: y :: z :: rest =>
      rw [decodeBytes, if_pos rfl]
      cases read : octet? x y z with
      | none => rfl
      | some octet =>
        have written := octet?_eq_some_iff.1 read
        exact absurd ⟨octet, written ▸ ⟨rest, rfl⟩⟩ verbatim
  · exact decodeBytes_cons_of_ne backslash rest

/-! ## The scan -/

variable {octets : Bytes} {pieces : List Piece}

/-- Each octet is in one piece. -/
theorem IsScan.octets_eq (scan : IsScan octets pieces) :
    pieces.flatMap Piece.octets = octets := by
  induction scan with
  | nil => rfl
  | @plain b _ _ _ _ ih => exact congrArg (b :: ·) ih
  | escape starts _ ih => rw [List.flatMap_cons, ih, starts, Piece.octets]

/-- Each piece is read by itself. -/
theorem IsScan.decodeBytes_eq (scan : IsScan octets pieces) :
    decodeBytes octets = pieces.map Piece.value := by
  induction scan with
  | nil => rfl
  | plain verbatim _ ih =>
    rw [decodeBytes_cons_of_verbatim verbatim, ih]
    rfl
  | escape starts _ ih =>
    rw [starts, decodeBytes_escapeOctet_append, ih]
    rfl

theorem exists_isScan (octets : Bytes) : ∃ pieces, IsScan octets pieces := by
  match octets with
  | [] => exact ⟨[], .nil⟩
  | b :: rest =>
    by_cases starts : StartsEscape (b :: rest)
    · obtain ⟨octet, tail, same⟩ := starts
      have shorter : tail.length < (b :: rest).length := by
        rw [← same, encode_escapeOctet, List.length_append]
        exact Nat.lt_add_of_pos_left (Nat.succ_pos _)
      obtain ⟨pieces, scan⟩ := exists_isScan tail
      exact ⟨_, .escape same.symm scan⟩
    · obtain ⟨pieces, scan⟩ := exists_isScan rest
      exact ⟨_, .plain starts scan⟩
termination_by octets.length
decreasing_by
  · exact shorter
  · exact Nat.lt_succ_self rest.length

/-- There is only one scan. -/
theorem IsScan.unique {others : List Piece} (scan : IsScan octets pieces)
    (other : IsScan octets others) : others = pieces := by
  induction scan generalizing others with
  | nil =>
    cases other with
    | nil => rfl
    | escape starts =>
      rw [encode_escapeOctet] at starts
      cases starts
  | plain verbatim _ ih =>
    cases other with
    | plain _ later => rw [ih later]
    | escape starts => exact absurd ⟨_, _, starts.symm⟩ verbatim
  | @escape b octets rest pieces starts _ ih =>
    subst starts
    generalize whole : Utf8.encode (escapeOctet b) ++ rest = octets at other
    cases other with
    | nil =>
      rw [encode_escapeOctet] at whole
      cases whole
    | plain verbatim => exact absurd ⟨_, _, whole⟩ verbatim
    | @escape b' _ rest' _ starts later =>
      have same := whole.trans starts
      -- What the escapes are read as tells them apart.
      have read := congrArg decodeBytes same
      rw [decodeBytes_escapeOctet_append, decodeBytes_escapeOctet_append] at read
      obtain ⟨rfl, -⟩ := List.cons.inj read
      cases List.append_cancel_left same
      rw [ih later]

/-! ## Backslashes that start no escape -/

/-- Three digits that write no octet: one of them is an eight or a nine, or they write a number
above `377`. -/
structure WritesNoOctet (a b c : Nat) : Prop where
  digits : a < 10 ∧ b < 10 ∧ c < 10
  noOctet : 8 ≤ a ∨ 8 ≤ b ∨ 8 ≤ c ∨ 0o377 < a * 64 + b * 8 + c

theorem digitOctet_ne_mark : ∀ n < 10, digitOctet n ≠ mark := by
  decide

theorem eq_of_digitOctet_eq : ∀ m < 10, ∀ n < 10, digitOctet m = digitOctet n → m = n := by
  decide

/-- Digits that write no octet are left as they are, with the backslash in front of them. -/
theorem decodeBytes_numeral_append {a b c : Nat} (noOctet : WritesNoOctet a b c) (rest : Bytes) :
    decodeBytes (Utf8.encode (numeral a b c) ++ rest) =
      Utf8.encode (numeral a b c) ++ decodeBytes rest := by
  obtain ⟨⟨high, middle, low⟩, noOctet⟩ := noOctet
  have verbatim :
      ¬ StartsEscape (mark :: digitOctet a :: digitOctet b :: digitOctet c :: rest) := by
    rintro ⟨octet, tail, same⟩
    have small := octet.toNat_lt
    rw [encode_escapeOctet] at same
    simp only [List.cons_append, List.nil_append, List.cons.injEq, true_and] at same
    have first := eq_of_digitOctet_eq _ (by omega) _ high same.1
    have second := eq_of_digitOctet_eq _ (by omega) _ middle same.2.1
    have third := eq_of_digitOctet_eq _ (by omega) _ low same.2.2.1
    omega
  rw [encode_numeral high middle low]
  simp only [List.cons_append, List.nil_append]
  rw [decodeBytes_cons_of_verbatim verbatim, decodeBytes_cons_of_ne (digitOctet_ne_mark a high),
    decodeBytes_cons_of_ne (digitOctet_ne_mark b middle),
    decodeBytes_cons_of_ne (digitOctet_ne_mark c low)]

/-- Fewer octets than an escape has are left as they are. -/
theorem decodeBytes_of_short (short : octets.length < 4) : decodeBytes octets = octets := by
  match octets with
  | [] | [_] | [_, _] | [_, _, _] => rfl
  | _ :: _ :: _ :: _ :: _ =>
    simp only [List.length_cons] at short
    omega

/-! ## Texts -/

theorem decoded_eq_lossy (text : String) :
    decoded text = Utf8.lossy (decodeBytes (Utf8.bytes text)) :=
  rfl

theorem decoded_append_of_writes {copies : Char → Bool} (backslash : copies '\\' = false)
    {text written : String} (writes : Writes copies text.toList written.toList) (rest : String) :
    decoded (written ++ rest) = text ++ decoded rest := by
  rw [decoded, String.toList_append, decode_append_of_writes backslash writes, String.ofList_append,
    String.ofList_toList]
  rfl

theorem decoded_numeral_append {a b c : Nat} (noOctet : WritesNoOctet a b c) (rest : String) :
    decoded (String.ofList (numeral a b c) ++ rest) =
      String.ofList (numeral a b c) ++ decoded rest := by
  rw [decoded, String.toList_append, String.toList_ofList, decode, Utf8.encode_append,
    decodeBytes_numeral_append noOctet, Utf8.decodeLossy_encode_append, String.ofList_append]
  rfl

/-- A text with a backslash and less than three octets behind it is too short for an escape. -/
theorem decoded_backslash_of_short {cut : String} (short : (Utf8.bytes cut).length < 3) :
    decoded ("\\" ++ cut) = "\\" ++ cut := by
  have octets : Utf8.bytes ("\\" ++ cut) = mark :: Utf8.bytes cut := by
    rw [Utf8.bytes, String.toList_append, Utf8.encode_append]
    rfl
  rw [decoded_eq_lossy, decodeBytes_of_short, Utf8.lossy_bytes]
  rw [octets, List.length_cons]
  omega

/-- What is written with escapes is given back, whatever follows it. In particular a backslash that
is read from its escape starts no escape with what follows, and a backslash stays as it is if fewer
than three octets stand behind it at the end, or three digits that write no octet. Any text is cut
into pieces, each octet into one and in one way only, and each piece is read by itself. -/
theorem decoded_piece_by_piece :
    (∀ text written : String, Writes (· != '\\') text.toList written.toList →
      (∀ rest, decoded (written ++ rest) = text ++ decoded rest) ∧
      (∀ rest, decoded (written ++ "\\134" ++ rest) = text ++ "\\" ++ decoded rest) ∧
      (∀ cut, (Utf8.bytes cut).length < 3 →
        decoded (written ++ "\\" ++ cut) = text ++ "\\" ++ cut) ∧
      ∀ a b c, WritesNoOctet a b c → ∀ rest,
        decoded (written ++ String.ofList (numeral a b c) ++ rest) =
          text ++ String.ofList (numeral a b c) ++ decoded rest) ∧
    ∀ text : String, ∃ pieces, IsScan (Utf8.bytes text) pieces ∧
      (∀ others, IsScan (Utf8.bytes text) others → others = pieces) ∧
      pieces.flatMap Piece.octets = Utf8.bytes text ∧
      decoded text = Utf8.lossy (pieces.map Piece.value) := by
  constructor
  · intro text written writes
    have law := decoded_append_of_writes rfl writes
    refine ⟨law, fun rest => ?_, fun cut short => ?_, fun a b c noOctet rest => ?_⟩
    · have backslash : Writes (· != '\\') "\\".toList "\\134".toList := .escaped .nil
      rw [String.append_assoc, law, decoded_append_of_writes rfl backslash, String.append_assoc]
    · rw [String.append_assoc, law, decoded_backslash_of_short short, String.append_assoc]
    · rw [String.append_assoc, law, decoded_numeral_append noOctet, String.append_assoc]
  · intro text
    obtain ⟨pieces, scan⟩ := exists_isScan (Utf8.bytes text)
    refine ⟨pieces, scan, fun others other => scan.unique other, scan.octets_eq, ?_⟩
    rw [decoded_eq_lossy, scan.decodeBytes_eq]

/-- The text of an escape, with a character of two octets behind it, is given back in front of an
escape that is cut off and of digits that write no octet. -/
theorem escape_text_read_once :
    Writes (· != '\\') "\\040ß".toList "\\134040\\303\\237".toList ∧
    decoded ("\\134040\\303\\237" ++ "\\040") = "\\040ß" ++ decoded "\\040" ∧
    decoded ("\\134040\\303\\237" ++ "\\134" ++ "040") = "\\040ß" ++ "\\" ++ decoded "040" ∧
    (Utf8.bytes "04").length < 3 ∧
    decoded ("\\134040\\303\\237" ++ "\\" ++ "04") = "\\040ß" ++ "\\" ++ "04" ∧
    WritesNoOctet 4 0 0 ∧
    decoded ("\\134040\\303\\237" ++ String.ofList (numeral 4 0 0) ++ "\\040") =
      "\\040ß" ++ String.ofList (numeral 4 0 0) ++ decoded "\\040" := by
  have writes : Writes (· != '\\') "\\040ß".toList "\\134040\\303\\237".toList :=
    .escaped (.copied rfl (.copied rfl (.copied rfl (.escaped .nil))))
  have short : (Utf8.bytes "04").length < 3 := by decide
  have tooLarge : WritesNoOctet 4 0 0 := ⟨by decide, by decide⟩
  obtain ⟨law, backslash, cutOff, noOctet⟩ := decoded_piece_by_piece.1 _ _ writes
  exact ⟨writes, law "\\040", backslash "040", short, cutOff "04" short, tooLarge,
    noOctet 4 0 0 tooLarge "\\040"⟩

end HostStorage.Octal
