import HostStorage.Json.Value
import HostStorage.Listing

/-!
# Devices of a volume

How a mounted volume is made up of block devices.
-/
namespace HostStorage

/-- The disks of a volume, the multipath map or the pseudo device above them, and where the volume
is mounted; what there is not is empty. -/
structure VolumeDevices where
  disks : List String := []
  map : String := ""
  pseudoDevice : String := ""
  mountPoint : String := ""
  deriving DecidableEq, Repr

namespace VolumeDevices

def fieldNames : List String := ["device_names", "mpath_name", "ppath_name", "mount_point"]

def toJson (d : VolumeDevices) : Json := .record (fieldNames.zip
  [.texts d.disks, .text d.map, .text d.pseudoDevice, .text d.mountPoint])

/-- The devices that a JSON value describes; no field may be absent. -/
def ofJson? (j : Json) : Option VolumeDevices := do
  match ← j.fields? fieldNames with
  | [some a, some b, some c, some d] =>
    return ⟨← a.texts?, ← b.text?, ← c.text?, ← d.text?⟩
  | _ => none

def listing (d : VolumeDevices) : Listing := .record "DeviceMountInfo"
  [("device_names", .texts d.disks), ("mpath_name", .text d.map),
    ("ppath_name", .text d.pseudoDevice), ("mount_point", .text d.mountPoint)]

end VolumeDevices
end HostStorage
