import HostStorage.Text.Hex

/-!
# Logical unit numbers

Callers give a unit in hexadecimal, the kernel wants it in decimal. What is no unit number stands
for all units and becomes the wildcard.
-/
namespace HostStorage

/-- Every channel, target or unit. -/
def wildcard : String := "-"

namespace Lun

/-- The first number that is no unit number. -/
def limit : Nat := 0x80000000

/-- The unit that hexadecimal digits with an optional sign name. -/
def parse? (cs : List Char) : Option Nat :=
  match cs with
  | '-' :: r => (Text.hexNumber? r).filter (· == 0)
  | '+' :: r => (Text.hexNumber? r).filter (· < limit)
  | _ => (Text.hexNumber? cs).filter (· < limit)

/-- The unit in decimal, or the wildcard. -/
def normalized (lun : String) : String :=
  match parse? lun.toList with
  | some n => toString n
  | none => wildcard

end Lun
end HostStorage
