import HostStorage.Json.Value
import HostStorage.Listing

/-!
# Mount records

A record says what is mounted where; an entry is a line of the kernel's mount table before it is
interpreted.
-/
namespace HostStorage

/-- One mounted file system. For a bind mount the source is the directory that was bound. -/
structure MountRecord where
  device : String
  path : String
  source : String
  fsType : String
  options : List String
  deriving DecidableEq, Repr

structure MountEntry where
  mountId : String
  parentId : String
  majorMinor : String
  root : String
  mountPoint : String
  mountOptions : List String
  optionalFields : List String
  fsType : String
  mountSource : String
  superOptions : List String
  deriving DecidableEq, Repr

namespace MountRecord

def fieldNames : List String := ["device", "path", "source", "type", "opts"]

def toJson (r : MountRecord) : Json := .record (fieldNames.zip
  [.text r.device, .text r.path, .text r.source, .text r.fsType, .texts r.options])

/-- The record that a JSON value describes; no field may be absent. -/
def ofJson? (j : Json) : Option MountRecord := do
  match ← j.fields? fieldNames with
  | [some a, some b, some c, some d, some e] =>
    return ⟨← a.text?, ← b.text?, ← c.text?, ← d.text?, ← e.texts?⟩
  | _ => none

def listing (r : MountRecord) : Listing := .record "MountRecord"
  [("device", .text r.device), ("path", .text r.path), ("source", .text r.source),
    ("fs_type", .text r.fsType), ("opts", .texts r.options)]

end MountRecord
end HostStorage
