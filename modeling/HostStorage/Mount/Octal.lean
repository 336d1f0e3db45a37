import HostStorage.Text.Utf8

/-!
# Octal escapes

The kernel writes awkward characters of a path as a backslash and three octal digits for each octet
of the character. Decoding takes every such escape whose value is an octet and leaves all else,
including a backslash that starts no escape.
-/
namespace HostStorage.Octal

/-- The backslash. -/
def mark : UInt8 := 0x5c

def digit? (b : UInt8) : Option Nat :=
  if 0x30 ≤ b ∧ b ≤ 0x37 then some (b.toNat - 0x30) else none

def octet? (a b c : UInt8) : Option UInt8 :=
  match digit? a, digit? b, digit? c with
  | some x, some y, some z =>
    let n := x * 64 + y * 8 + z
    if n < 256 then some n.toUInt8 else none
  | _, _, _ => none

/-- Replaces each escape by its octet. -/
def decodeBytes : Bytes → Bytes
  | m :: a :: b :: c :: r =>
    if m = mark then
      match octet? a b c with
      | some octet => octet :: decodeBytes r
      | none => m :: decodeBytes (a :: b :: c :: r)
    else m :: decodeBytes (a :: b :: c :: r)
  | rest => rest

/-- Replaces each escape of a text by its octet and reads the octets as text again. -/
def decode (cs : List Char) : List Char := Utf8.decodeLossy (decodeBytes (Utf8.encode cs))

def decoded (s : String) : String := String.ofList (decode s.toList)

end HostStorage.Octal
