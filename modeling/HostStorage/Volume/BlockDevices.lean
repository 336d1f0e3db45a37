import HostStorage.Error
import HostStorage.Host.Access
import HostStorage.SysPaths
import HostStorage.Volume.Wwn

/-!
# Block devices of a volume

Every block device tells the name of its volume in a file; NVMe namespaces have it beside them,
SCSI disks below their device. A device whose file cannot be read belongs to no volume.
-/
namespace HostStorage

def isNvme (device : String) : Bool := Text.startsWith device "nvme"

def volumeNameFile (paths : SysPaths) (device : String) : String :=
  let directory := Path.below paths.sysBlock device
  Path.below (if isNvme device then directory else Path.below directory "device") "wwid"

/-- Whether the name that a device tells is that of a volume. -/
def namesVolume (wwn device told : String) : Bool :=
  if isNvme device then Wwn.identifies told wwn
  else Text.without "naa." told == Text.without "naa." wwn

def belongsTo (paths : SysPaths) (t : HostTree) (wwn device : String) : Bool :=
  match t.contentText (volumeNameFile paths device) with
  | .ok told => namesVolume wwn device (Text.trimmed told)
  | .error _ => false

/-- The block devices of a volume, in order. -/
def volumeBlockDevices (paths : SysPaths) (t : HostTree) (wwn : String) :
    Except StorageError (List String) := do
  let devices ← (t.names paths.sysBlock).mapError (.unreadable paths.sysBlock)
  return devices.filter (belongsTo paths t wwn)

end HostStorage
