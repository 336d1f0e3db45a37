/-!
# UTF-8

Characters as octets and back. Reading is lossy or strict: the lossy reading writes one replacement
character for each maximal run of octets that starts a character but cannot be completed, the
strict reading refuses such a text. Surrogates, overlong forms and code points above `10ffff` are
not characters.
-/
namespace HostStorage

/-- Raw octets: file contents and what commands write. -/
abbrev Bytes := List UInt8

namespace Utf8

def encodeChar (c : Char) : Bytes :=
  let n := c.toNat
  if n < 0x80 then [n.toUInt8]
  else if n < 0x800 then [(0xc0 + n / 0x40).toUInt8, (0x80 + n % 0x40).toUInt8]
  else if n < 0x10000 then
    [(0xe0 + n / 0x1000).toUInt8, (0x80 + n / 0x40 % 0x40).toUInt8, (0x80 + n % 0x40).toUInt8]
  else
    [(0xf0 + n / 0x40000).toUInt8, (0x80 + n / 0x1000 % 0x40).toUInt8,
      (0x80 + n / 0x40 % 0x40).toUInt8, (0x80 + n % 0x40).toUInt8]

def encode (cs : List Char) : Bytes := cs.flatMap encodeChar

/-- Whether an octet continues a character. -/
def isTail (b : UInt8) : Bool := 0x80 ≤ b && b ≤ 0xbf

/-- The value that a continuing octet contributes. -/
def tailBits (b : UInt8) : Nat := b.toNat - 0x80

/-- The octets allowed after the first octet `b` of a character with more than two octets: an
overlong form, a surrogate and a code point above `10ffff` are cut off here. -/
def secondFits (b second : UInt8) : Bool :=
  if b = 0xe0 then 0xa0 ≤ second && second ≤ 0xbf
  else if b = 0xed then 0x80 ≤ second && second ≤ 0x9f
  else if b = 0xf0 then 0x90 ≤ second && second ≤ 0xbf
  else if b = 0xf4 then 0x80 ≤ second && second ≤ 0x8f
  else isTail second

/-- One step of reading: a character with the octets after it, or the octets after a run that is
no character. -/
inductive Step where
  | char (c : Char) (rest : Bytes) | broken (rest : Bytes)
  deriving Repr

/-- Reads the characters that start with the octet `b`. -/
def step (b : UInt8) (rest : Bytes) : Step :=
  if b < 0x80 then .char (Char.ofNat b.toNat) rest
  else if 0xc2 ≤ b && b ≤ 0xdf then
    match rest with
    | t :: r => if isTail t then .char (Char.ofNat ((b.toNat - 0xc0) * 0x40 + tailBits t)) r
      else .broken rest
    | [] => .broken rest
  else if 0xe0 ≤ b && b ≤ 0xef then
    match rest with
    | s :: t :: r =>
      if !secondFits b s then .broken rest
      else if !isTail t then .broken (t :: r)
      else .char (Char.ofNat ((b.toNat - 0xe0) * 0x1000 + tailBits s * 0x40 + tailBits t)) r
    | [s] => if secondFits b s then .broken [] else .broken rest
    | [] => .broken rest
  else if 0xf0 ≤ b && b ≤ 0xf4 then
    match rest with
    | s :: t :: u :: r =>
      if !secondFits b s then .broken rest
      else if !isTail t then .broken (t :: u :: r)
      else if !isTail u then .broken (u :: r)
      else .char (Char.ofNat ((b.toNat - 0xf0) * 0x40000 + tailBits s * 0x1000 +
        tailBits t * 0x40 + tailBits u)) r
    | [s, t] =>
      if !secondFits b s then .broken rest
      else if !isTail t then .broken [t]
      else .broken []
    | [s] => if secondFits b s then .broken [] else .broken rest
    | [] => .broken rest
  else .broken rest

def Step.rest : Step → Bytes
  | .char _ r | .broken r => r

/-- A step takes at least the first octet. -/
theorem step_rest_length (b : UInt8) (rest : Bytes) : (step b rest).rest.length ≤ rest.length := by
  unfold step
  repeat' split
  all_goals simp [Step.rest]
  all_goals omega

/-- The character written for octets that are none. -/
def replacement : Char := Char.ofNat 0xfffd

def decodeLossy : Bytes → List Char
  | [] => []
  | b :: rest =>
    match _h : step b rest with
    | .char c r => c :: decodeLossy r
    | .broken r => replacement :: decodeLossy r
termination_by bs => bs.length
decreasing_by
  all_goals
    have := step_rest_length b rest
    simp only [_h, Step.rest] at this
    simp only [List.length_cons]
    omega

/-- Strict reading: `none` if some octets are no character. -/
def decode? : Bytes → Option (List Char)
  | [] => some []
  | b :: rest =>
    match _h : step b rest with
    | .char c r => (decode? r).map (c :: ·)
    | .broken _ => none
termination_by bs => bs.length
decreasing_by
  have := step_rest_length b rest
  simp only [_h, Step.rest] at this
  simp only [List.length_cons]
  omega

def bytes (s : String) : Bytes := encode s.toList

def lossy (bs : Bytes) : String := String.ofList (decodeLossy bs)

def read? (bs : Bytes) : Option String := (decode? bs).map String.ofList

end Utf8
end HostStorage
