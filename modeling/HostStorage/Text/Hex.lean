/-!
# Hexadecimal numbers

Digits and their values. Writing uses lower case, reading takes both cases.
-/
namespace HostStorage.Text

def hexValue? (c : Char) : Option Nat :=
  if '0' ≤ c ∧ c ≤ '9' then some (c.toNat - 48)
  else if 'a' ≤ c ∧ c ≤ 'f' then some (c.toNat - 87)
  else if 'A' ≤ c ∧ c ≤ 'F' then some (c.toNat - 55)
  else none

/-- The number that hexadecimal digits write, most significant first, after the digits that wrote
`high`. -/
def hexNumberFrom? (high : Nat) : List Char → Option Nat
  | [] => some high
  | c :: r =>
    match hexValue? c with
    | some d => hexNumberFrom? (high * 16 + d) r
    | none => none

/-- The number that one or more hexadecimal digits write. -/
def hexNumber? (cs : List Char) : Option Nat := if cs.isEmpty then none else hexNumberFrom? 0 cs

/-- A number in lower-case hexadecimal without leading zeros. -/
def hex (n : Nat) : List Char := Nat.toDigits 16 n

/-- A number in lower-case hexadecimal with at least `width` digits. -/
def hexPadded (width n : Nat) : List Char :=
  List.replicate (width - (hex n).length) '0' ++ hex n

end HostStorage.Text
