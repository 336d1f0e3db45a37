import HostStorage.Error
import HostStorage.Host.Access
import HostStorage.SysPaths

/-!
# Links to disks

The device manager keeps links to disks, named by world wide name and by the path through the
fabric. A volume is found by the first of its links that leads to a device name.
-/
namespace HostStorage

/-- The device that a link's target names. -/
def linkedDevice? (target : String) : Option String :=
  (Path.lastName? target).map ("/dev/" ++ ·)

/-- The names that a link to a volume may have: multipath map, NVMe namespace, SCSI disk. -/
def wwnLinkNames (wwn : String) : List String :=
  ["dm-uuid-mpath-3" ++ wwn, "nvme-eui." ++ wwn, "wwn-0x" ++ wwn]

/-- Whether a failed reading of a link says that there is no link. -/
def isAbsentLink (f : IoFailure) : Bool :=
  f.kind == "NotFound" || f.kind == "InvalidInput"

/-- The first of the links that leads to a device, with that device. -/
def firstLinked? (t : HostTree) : List String → Except StorageError (Option (String × String))
  | [] => .ok none
  | link :: rest =>
    match t.linkTarget link with
    | .ok target =>
      match linkedDevice? target with
      | some device => .ok (some (link, device))
      | none => firstLinked? t rest
    | .error f => if isAbsentLink f then firstLinked? t rest else .error (.unreadable link f)

/-- The link to the volume with a world wide name, and its device. -/
def wwnDevice (paths : SysPaths) (t : HostTree) (wwn : String) :
    Except StorageError (String × String) := do
  let links := (wwnLinkNames wwn).map (Path.below paths.diskById)
  match ← firstLinked? t links with
  | some found => .ok found
  | none => .error (.notFound ("device for WWN " ++ wwn))

def decimalLunEnding (lun : Nat) : String := "-lun-" ++ toString lun

def hexLunEnding (lun : Nat) : String :=
  "-lun-0x" ++ String.ofList (Text.hexPadded 4 lun) ++ "000000000000"

def isPortalLink (ip : String) (lun : Nat) (name : String) : Bool :=
  Text.startsWith name ("ip-" ++ ip ++ ":") &&
    (Text.endsWith name (decimalLunEnding lun) || Text.endsWith name (hexLunEnding lun))

/-- The links to a unit behind a portal with their devices, by name; what is no link is skipped. -/
def portalDevices (paths : SysPaths) (t : HostTree) (ip : String) (lun : Nat) :
    Except StorageError (List (String × String)) := do
  let names ← (t.names paths.diskByPath).mapError (.unreadable paths.diskByPath)
  return (names.filter (isPortalLink ip lun)).filterMap fun name =>
    let link := Path.below paths.diskByPath name
    match t.linkTarget link with
    | .ok target => (linkedDevice? target).map fun device => (link, device)
    | .error _ => none

end HostStorage
