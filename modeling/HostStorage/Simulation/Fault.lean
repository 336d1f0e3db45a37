import HostStorage.Request

/-!
# Faults

Every operation of a simulated host can be made to fail. Each fault has the name under which the
failure is reported.
-/
namespace HostStorage

/-- An operation that is to fail. -/
inductive Fault where
  | mounts | deviceMounts | mount | bindMount | unmount | format | formatAndMount | diskFormat
  | wwnDevice | portalDevices | removeDisk | multipath | fcPortNames | rescan | initialiseLoops
  | volumeBlockDevices | volumeDevices | rescanDisk | resizeMultipath | mountedFsType | resizeFs
  | mapAbove | usage | nvmeController
  deriving DecidableEq, Repr

namespace Fault

def operation : Fault → String
  | .mounts => "getMounts"
  | .deviceMounts => "dev mount"
  | .mount => "mount"
  | .bindMount => "bindMount"
  | .unmount => "unmount"
  | .format => "format"
  | .formatAndMount => "formatAndMount"
  | .diskFormat => "getDiskFormat"
  | .wwnDevice => "wwnToDevicePath"
  | .portalDevices => "targetIPLUNToDevicePath"
  | .removeDisk => "removeBlockDevice"
  | .multipath => "multipath command"
  | .fcPortNames => "getFCHostPortWWNs"
  | .rescan => "rescan"
  | .initialiseLoops => "issueLIP"
  | .volumeBlockDevices => "getSysBlockDevicesForVolumeWWN"
  | .volumeDevices => "getMountInfoFromDevice"
  | .rescanDisk => "deviceRescan"
  | .resizeMultipath => "resizeMultipath"
  | .mountedFsType => "findFSType"
  | .resizeFs => "resizeFS"
  | .mapAbove => "getMpathNameFromDevice"
  | .usage => "filesystemInfo"
  | .nvmeController => "getNVMeController"

/-- The faults that make a request fail, in the order in which they are looked at. A bind mount
goes on as a mount. -/
def ofRequest : Request → List Fault
  | .mounts => [.mounts]
  | .deviceMounts _ => [.deviceMounts]
  | .mount .. => [.mount]
  | .bindMount .. => [.bindMount, .mount]
  | .unmount _ => [.unmount]
  | .formatAndMount .. => [.formatAndMount]
  | .format .. => [.format]
  | .diskFormat _ => [.diskFormat]
  | .volumeDevices _ => [.volumeDevices]
  | .mapAbove _ => [.mapAbove]
  | .resizeFs .. => [.resizeFs]
  | .mountedFsType _ => [.mountedFsType]
  | .resizeMultipath _ => [.resizeMultipath]
  | .rescanDisk _ => [.rescanDisk]
  | .removeDisk _ => [.removeDisk]
  | .deviceNode _ => []
  | .wwnDevice _ => [.wwnDevice]
  | .portalDevices .. => [.portalDevices]
  | .volumeBlockDevices _ => [.volumeBlockDevices]
  | .nvmeController _ => [.nvmeController]
  | .rescan .. => [.rescan]
  | .initialiseLoops => [.initialiseLoops]
  | .fcPortNames => [.fcPortNames]
  | .multipath .. => [.multipath]
  | .usage _ => [.usage]

end Fault
end HostStorage
