import HostStorage.Text.Lowercase
import HostStorage.Text.Split

/-!
# World wide names of volumes

An array gives a volume a SCSI name of 32 hexadecimal digits and, over NVMe, an identifier with the
digits of that name in another order. The order depends on the maker, who is told by digits 1 to 6
of the name. Names may carry the mark `naa.`, identifiers the mark `eui.`; case does not matter.
-/
namespace HostStorage.Wwn

/-- The makers whose order of digits is known. -/
inductive Maker where
  | powerStore | powerMax
  deriving DecidableEq, Repr

/-- The digits `from` to `upTo`, the latter excluded. -/
def slice (start stop : Nat) (cs : List Char) : List Char := (cs.drop start).take (stop - start)

def maker? (name : List Char) : Option Maker :=
  if slice 1 7 name = ['8', 'c', 'c', 'f', '0', '9'] then some .powerStore
  else if slice 1 7 name = ['0', '0', '0', '0', '9', '7'] then some .powerMax
  else none

/-- The digits of a name: small letters, without the mark. -/
def nameDigits (wwn : String) : List Char :=
  Text.withoutStart ['n', 'a', 'a', '.'] (Text.lowercase wwn.toList)

/-- The digits of an identifier: small letters, without the mark and blanks around it. -/
def identifierDigits (nguid : String) : List Char :=
  Text.withoutStart ['e', 'u', 'i', '.'] (Text.lowercase (Text.trim nguid.toList))

/-- Whether an identifier has the digits of a name in the order of the maker. -/
def fits : Maker → List Char → List Char → Bool
  | .powerStore, identifier, name =>
    Text.occursIn (slice 10 26 name) identifier && Text.occursIn (slice 26 32 name) identifier
  | .powerMax, identifier, name =>
    (slice 16 32 name ++ slice 1 7 name).isPrefixOf identifier

/-- Whether an NVMe identifier and a SCSI name are those of one volume. -/
def identifies (nguid wwn : String) : Bool :=
  let name := nameDigits wwn
  if name.length < 32 || name.any fun c => 0x80 ≤ c.toNat then false
  else match maker? name with
    | some m => fits m (identifierDigits nguid) name
    | none => false

end HostStorage.Wwn
