import HostStorage.Text.Split

/-!
# Numbers on the command line

Natural numbers in decimal ASCII digits, with a plus sign if one likes.
-/
namespace HostStorage.CommandLine

/-- The number that one or more digits write. -/
def digits? (cs : List Char) : Option Nat :=
  if cs.isEmpty || !cs.all Char.isDigit then none else some (Nat.ofDigitChars 10 cs 0)

/-- The number below `limit` that a text writes. -/
def natural? (limit : Nat) (s : String) : Option Nat :=
  (digits? (Text.withoutStart ['+'] s.toList)).filter (· < limit)

/-- The number of a logical unit; minus zero is zero. -/
def unitNumber? (s : String) : Option Nat :=
  match s.toList with
  | '-' :: r => (digits? r).filter (· == 0)
  | _ => natural? UInt32.size s

def isWord64 (s : String) : Bool := (natural? UInt64.size s).isSome

/-- The 64-bit number that a text writes, or the usual one if there is no text. -/
def word64 (usual : Nat) (s : Option String) : Nat := (s.bind (natural? UInt64.size)).getD usual

end HostStorage.CommandLine
