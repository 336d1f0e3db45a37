import HostStorage.Error
import HostStorage.Host.Access
import HostStorage.Simulation.Fault

/-!
# Simulated hosts

A host that is nothing but its state: a mount table, names of volumes and their devices, NVMe
namespaces with their controllers, and the faults that are to occur. A request that fails leaves
the state as it is; one that succeeds changes only the part that it is about.
-/
namespace HostStorage

structure SimulatedHost where
  mounts : List MountRecord := []
  fcPortNames : List String := []
  wwnDevices : List (String × String) := []
  wwnLinkStart : String := ""
  portalDevices : List (String × String) := []
  volumeDevices : Option VolumeDevices := none
  controllers : List (String × String) := []
  namespaces : List String := []
  diskFormat : Option String := none
  rescans : List String := []
  faults : List Fault := []
  deriving DecidableEq, Repr

namespace SimulatedHost

/-- The state with some faults made to occur and others no longer. -/
def induce (s : SimulatedHost) (on off : List Fault) : SimulatedHost :=
  { s with faults := (s.faults ++ on).filter (!off.contains ·) }

/-- The device that a mount of a path from an existing mount point shows. -/
def boundDevice : String := "devtmpfs"

/-- The place that the source of a mount leads to; a source that leads nowhere stands for itself. -/
def sourceDevice (links : HostTree) (source : String) : String :=
  (links.canonical source).toOption.getD source

/-- The record of a new mount. Mounting an existing mount point is binding it: the source is then
the device that is mounted there. -/
def newRecord (links : HostTree) (mounts : List MountRecord) (source target fsType : String)
    (options : List String) : MountRecord :=
  match mounts.find? (·.path == source) with
  | some above => ⟨boundDevice, target, above.device, fsType, options⟩
  | none => ⟨sourceDevice links source, target, "", fsType, options⟩

def addMount (links : HostTree) (s : SimulatedHost) (source target fsType : String)
    (options : List String) : SimulatedHost :=
  { s with mounts := s.mounts ++ [newRecord links s.mounts source target fsType options] }

/-- The state with the type of every mount of a device changed. -/
def retype (s : SimulatedHost) (device fsType : String) : SimulatedHost :=
  { s with mounts := s.mounts.map fun m => if m.device == device then { m with fsType } else m }

def usualVolumeDevices : VolumeDevices where
  disks := ["sda", "sdb"]
  map := "mpathb"
  mountPoint := "/noderoot/var/lib/kubelet/pods/abc-123/volumes/k8.io/pmax-0123/mount"

def usualUsage : FsUsage where
  available := 1000
  capacity := 2000
  used := 1000
  inodes := 4
  inodesFree := 2
  inodesUsed := 2

/-- The file system on a disk: the one given for all disks, or that of its first mount. -/
def formatOf (s : SimulatedHost) (disk : String) : String :=
  match s.diskFormat with
  | some given => given
  | none => ((s.mounts.find? (·.device == disk)).map (·.fsType)).getD ""

def controllerOf (s : SimulatedHost) (device : String) : Except StorageError String :=
  if s.namespaces.contains device then
    match s.controllers.lookup device with
    | some controller => .ok controller
    | none => .error (.controllerNotFound device)
  else .error (.deviceDoesNotExist device)

def portalKey (ip : String) (lun : Nat) : String := "ip-" ++ ip ++ ":-lun-" ++ toString lun

def portalEntries (s : SimulatedHost) (ip : String) (lun : Nat) : List (String × String) :=
  match s.portalDevices.lookup (portalKey ip lun) with
  | some device => [(portalKey ip lun, device)]
  | none => []

/-- Meets a request as if no fault occurred. -/
def answer (links : HostTree) (s : SimulatedHost) :
    Request → Except StorageError (Reply × SimulatedHost)
  | .mounts => .ok (.mounts s.mounts, s)
  | .deviceMounts device => .ok (.mounts (s.mounts.filter (·.device == device)), s)
  | .mount source target fsType options =>
    .ok (.done, s.addMount links source target fsType options)
  | .bindMount source target options =>
    .ok (.done, s.addMount links source target "" (options ++ ["bind"]))
  | .unmount target => .ok (.done, { s with mounts := s.mounts.filter (·.path != target) })
  | .formatAndMount _ source target fsType options =>
    .ok (.done, s.addMount links source target fsType options)
  | .format _ source _ fsType _ => .ok (.done, s.retype source fsType)
  | .diskFormat disk => .ok (.text (s.formatOf disk), s)
  | .volumeDevices _ => .ok (.devices (s.volumeDevices.getD usualVolumeDevices), s)
  | .mapAbove _ => .ok (.text "mpatha", s)
  | .resizeFs .. => .ok (.done, s)
  | .mountedFsType _ => .ok (.text "xfs", s)
  | .resizeMultipath _ => .ok (.done, s)
  | .rescanDisk _ => .ok (.done, s)
  | .removeDisk path => .ok (.done, { s with wwnDevices := s.wwnDevices.filter (·.2 != path) })
  | .deviceNode _ => .error .notImplemented
  | .wwnDevice wwn =>
    .ok (.linked (s.wwnLinkStart ++ wwn) ((s.wwnDevices.lookup wwn).getD ""), s)
  | .portalDevices ip lun => .ok (.devicesByLink (s.portalEntries ip lun), s)
  | .volumeBlockDevices wwn =>
    .ok (.texts ((s.wwnDevices.lookup wwn).map Path.afterSlash).toList, s)
  | .nvmeController device => (s.controllerOf device).map fun c => (.text c, s)
  | .rescan _ lun => .ok (.done, { s with rescans := s.rescans ++ [lun] })
  | .initialiseLoops => .ok (.done, s)
  | .fcPortNames => .ok (.texts s.fcPortNames, s)
  | .multipath .. => .ok (.output [], { s with wwnDevices := [] })
  | .usage _ => .ok (.usage usualUsage, s)

/-- Meets a request, unless one of its faults is to occur. -/
def perform (links : HostTree) (s : SimulatedHost) (r : Request) :
    Except StorageError Reply × SimulatedHost :=
  match (Fault.ofRequest r).find? s.faults.contains with
  | some fault => (.error (.induced fault.operation), s)
  | none =>
    match s.answer links r with
    | .ok (reply, s) => (.ok reply, s)
    | .error e => (.error e, s)

end SimulatedHost
end HostStorage
