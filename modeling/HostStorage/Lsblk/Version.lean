import HostStorage.Error
import HostStorage.Text.DecimalDigit

/-!
# Version of the device lister

Releases after 2.30 can sort their listing. The version is the first `linux <major>.<minor>` in the
version text; digits of any script are found, but only ASCII ones are numbers.
-/
namespace HostStorage.LsblkVersion

/-- The last release without sorting. -/
def lastUnsorted : Nat × Nat := (2, 30)

/-- The digits of a version that starts here. -/
def at? (cs : List Char) : Option (List Char × List Char) :=
  match ['l', 'i', 'n', 'u', 'x', ' '].isPrefixOf? cs with
  | none => none
  | some r =>
    match r.span Text.isDecimalDigit with
    | (major, '.' :: r) =>
      let minor := r.takeWhile Text.isDecimalDigit
      if major.isEmpty || minor.isEmpty then none else some (major, minor)
    | _ => none

/-- The digits of the first version in a text. -/
def find? : List Char → Option (List Char × List Char)
  | [] => none
  | c :: r =>
    match at? (c :: r) with
    | some v => some v
    | none => find? r

/-- The 32-bit number that ASCII digits write. -/
def number? (digits : List Char) : Option Nat :=
  if digits.all Char.isDigit then
    let n := Nat.ofDigitChars 10 digits 0
    if n < UInt32.size then some n else none
  else none

def parse (output : String) : Except StorageError (Nat × Nat) :=
  match find? output.toList with
  | none => .error (.malformed ("lsblk version from " ++ Text.quoted (Text.trimmed output)))
  | some (major, minor) =>
    match number? major, number? minor with
    | none, _ => .error (.malformed ("lsblk major version " ++ String.ofList major))
    | _, none => .error (.malformed ("lsblk minor version " ++ String.ofList minor))
    | some a, some b => .ok (a, b)

def canSort (v : Nat × Nat) : Bool :=
  lastUnsorted.1 < v.1 || (v.1 == lastUnsorted.1 && lastUnsorted.2 < v.2)

end HostStorage.LsblkVersion
