import HostStorage.Host.DeviceNode
import HostStorage.Host.Tool
import HostStorage.Lsblk.Stack
import HostStorage.Mount.Reading
import HostStorage.Mount.Unmounting
import HostStorage.Multipath.Command
import HostStorage.Nvme.Controller
import HostStorage.Request
import HostStorage.Scsi.Disk
import HostStorage.Scsi.FibreChannel
import HostStorage.Scsi.Rescan
import HostStorage.Volume.Links
import HostStorage.Volume.Preparing
import HostStorage.Volume.Resizing

/-!
# Requests to a host

Each request is met from the files of the host and by running tools. What was done is kept beside
the reply: the files afterwards, the commands that were run and the processes that were started.
-/
namespace HostStorage

/-- A host: where things are on it, how its mount table is scanned, its files, and the room on its
file systems. -/
structure Host where
  paths : SysPaths := .standard
  scan : EntryScan := EntryScan.usual
  tree : HostTree
  usage : FsUsage := {}

structure Performed where
  result : Except StorageError Reply
  tree : HostTree
  trace : Trace := []
  started : List Invocation := []

namespace Host

/-- The room of the file system that holds a path. -/
def usageAt (h : Host) (path : String) : Except StorageError FsUsage :=
  match h.tree.resolve true path with
  | .ok _ => .ok h.usage
  | .error f => .error (.io (.os f.errno))

def look {α : Type} (h : Host) (reply : α → Reply) (result : Except StorageError α) :
    Performed :=
  ⟨result.map reply, h.tree, [], []⟩

def write {α : Type} (p : Except StorageError α × HostTree) : Performed :=
  ⟨p.1.map fun _ => .done, p.2, [], []⟩

def command {α : Type} (h : Host) (runner : Runner) (reply : α → Reply) (op : Exec α) :
    Performed :=
  let (result, trace) := op.perform runner
  ⟨result.map reply, h.tree, trace, []⟩

/-- Meets a request; commands go to `runner`, the multipath tool is started by `start`. -/
def perform (h : Host) (runner : Runner) (start : Invocation → Except IoFailure ProcessRun) :
    Request → Performed
  | .mounts => h.look .mounts (mountsOf h.paths h.scan h.tree)
  | .deviceMounts device => h.look .mounts (HostStorage.deviceMounts h.paths h.scan h.tree device)
  | .mount source target fsType options =>
    h.command runner (fun _ => .done) (HostStorage.mount source target fsType options)
  | .bindMount source target options =>
    h.command runner (fun _ => .done) (HostStorage.bindMount source target options)
  | .unmount target => h.look (fun _ => .done) (HostStorage.unmount h.tree target)
  | .formatAndMount noDiscard source target fsType options =>
    h.command runner (fun _ => .done)
      (HostStorage.formatAndMount noDiscard source target fsType options)
  | .format noDiscard source target fsType options =>
    h.command runner (fun _ => .done) (HostStorage.format noDiscard source target fsType options)
  | .diskFormat disk => h.command runner .text (HostStorage.diskFormat disk)
  | .volumeDevices device =>
    h.command runner .devices (HostStorage.volumeDevices h.paths h.tree device)
  | .mapAbove device => h.command runner .text (HostStorage.mapAbove device)
  | .resizeFs mountPoint device pseudoDevice map fsType =>
    h.command runner (fun _ => .done)
      (HostStorage.resizeFs mountPoint device pseudoDevice map fsType)
  | .mountedFsType mountPoint => h.command runner .text (HostStorage.mountedFsType mountPoint)
  | .resizeMultipath map => h.command runner (fun _ => .done) (HostStorage.resizeMultipath map)
  | .rescanDisk path => write (HostStorage.rescanDisk h.paths h.tree path)
  | .removeDisk path => write (HostStorage.removeDisk h.paths h.tree path)
  | .deviceNode source => h.look .text (HostStorage.deviceNode h.tree source)
  | .wwnDevice wwn =>
    h.look (fun p => .linked p.1 p.2) (HostStorage.wwnDevice h.paths h.tree wwn)
  | .portalDevices ip lun =>
    h.look .devicesByLink (HostStorage.portalDevices h.paths h.tree ip lun)
  | .volumeBlockDevices wwn =>
    h.look .texts (HostStorage.volumeBlockDevices h.paths h.tree wwn)
  | .nvmeController device => h.look .text (HostStorage.nvmeController h.paths h.tree device)
  | .rescan targets lun => write (HostStorage.rescan h.paths h.tree targets lun)
  | .initialiseLoops => write (HostStorage.initialiseLoops h.paths h.tree).2
  | .fcPortNames => h.look .texts (HostStorage.fcPortNames h.paths h.tree)
  | .multipath deadline root arguments =>
    let (result, started) := multipathCommand h.paths start deadline root arguments
    ⟨result.map .output, h.tree, [], started⟩
  | .usage path => h.look .usage (h.usageAt path)

end Host
end HostStorage
