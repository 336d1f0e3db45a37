import HostStorage.Duration
import HostStorage.Lsblk.VolumeDevices
import HostStorage.Mount.Record
import HostStorage.Text.Utf8
import HostStorage.Volume.Usage

/-!
# Requests and replies

What can be asked of a host, real or simulated, and what is answered. A reply can be shown to a
person and written as JSON, unless it holds no value.
-/
namespace HostStorage

inductive Request where
  | mounts
  | deviceMounts (device : String)
  | mount (source target fsType : String) (options : List String)
  | bindMount (source target : String) (options : List String)
  | unmount (target : String)
  | formatAndMount (noDiscard : Bool) (source target fsType : String) (options : List String)
  | format (noDiscard : Bool) (source target fsType : String) (options : List String)
  | diskFormat (disk : String)
  | volumeDevices (device : String)
  | mapAbove (device : String)
  | resizeFs (mountPoint device pseudoDevice map fsType : String)
  | mountedFsType (mountPoint : String)
  | resizeMultipath (map : String)
  | rescanDisk (path : String)
  | removeDisk (path : String)
  | deviceNode (source : String)
  | wwnDevice (wwn : String)
  | portalDevices (ip : String) (lun : Nat)
  | volumeBlockDevices (wwn : String)
  | nvmeController (device : String)
  | rescan (targets : List String) (lun : String)
  | initialiseLoops
  | fcPortNames
  | multipath (deadline : Duration) (root : Option String) (arguments : List String)
  | usage (path : String)

inductive Reply where
  | done
  | mounts (records : List MountRecord)
  | text (s : String)
  | texts (items : List String)
  | linked (link device : String)
  | devicesByLink (entries : List (String × String))
  | devices (d : VolumeDevices)
  | output (octets : Bytes)
  | usage (u : FsUsage)
  deriving DecidableEq, Repr

namespace Reply

/-- The reply as it is shown, if it holds a value. -/
def listing? : Reply → Option Listing
  | .done | .output _ => none
  | .mounts rs => some (.list (rs.map MountRecord.listing))
  | .text s => some (.text s)
  | .texts items => some (.texts items)
  | .linked link device => some (.tuple "" [.text link, .text device])
  | .devicesByLink entries => some (.dictionary entries)
  | .devices d => some d.listing
  | .usage u => some u.listing

def json? : Reply → Option Json
  | .done | .output _ => none
  | .mounts rs => some (.list (rs.map MountRecord.toJson))
  | .text s => some (.text s)
  | .texts items => some (.texts items)
  | .linked link device => some (.texts [link, device])
  | .devicesByLink entries => some (.record (entries.map fun e => (e.1, .text e.2)))
  | .devices d => some d.toJson
  | .usage u => some u.toJson

end Reply
end HostStorage
