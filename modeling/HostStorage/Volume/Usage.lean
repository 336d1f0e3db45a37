import HostStorage.Json.Value
import HostStorage.Listing

/-!
# Usage of file systems

How much room a file system has, in octets and in inodes.
-/
namespace HostStorage

/-- The room of a file system; what is available is what ordinary users can have. -/
structure FsUsage where
  available : Nat := 0
  capacity : Nat := 0
  used : Nat := 0
  inodes : Nat := 0
  inodesFree : Nat := 0
  inodesUsed : Nat := 0
  deriving DecidableEq, Repr

namespace FsUsage

def figures (u : FsUsage) : List (String × Nat) :=
  [("available", u.available), ("capacity", u.capacity), ("used", u.used), ("inodes", u.inodes),
    ("inodes_free", u.inodesFree), ("inodes_used", u.inodesUsed)]

def toJson (u : FsUsage) : Json := .record (u.figures.map fun f => (f.1, .natural f.2))

def listing (u : FsUsage) : Listing :=
  .record "FsStats" (u.figures.map fun f => (f.1, .number f.2))

end FsUsage
end HostStorage
