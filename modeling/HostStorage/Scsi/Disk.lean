import HostStorage.Scsi.Attribute
import HostStorage.SysPaths

/-!
# Orders to disks

Taking a disk off the kernel, which is refused while the disk is blocked, and having its size read
again.
-/
namespace HostStorage

def deviceName (path : String) : Except StorageError String :=
  let name := Path.afterSlash path
  if name.isEmpty then .error (.invalidDevice path) else .ok name

def diskAttribute (paths : SysPaths) (device file : String) : String :=
  Path.below (Path.below (Path.below paths.sysBlock device) "device") file

/-- The order to take a disk off, unless its state cannot be read or is blocked. -/
def removalOrder (paths : SysPaths) (t : HostTree) (path : String) : Except StorageError Order := do
  let device ← deviceName path
  let stateFile := diskAttribute paths device "state"
  let state ← (t.contentText stateFile).mapError (.unreadable stateFile)
  if Text.trimmed state == "blocked" then .error (.deviceBlocked device)
  else return ⟨diskAttribute paths device "delete", "1"⟩

def resizeOrder (paths : SysPaths) (path : String) : Except StorageError Order := do
  return ⟨diskAttribute paths (← deviceName path) "rescan", "1"⟩

def carryOut (t : HostTree) : Except StorageError Order → Except StorageError Unit × HostTree
  | .error e => (.error e, t)
  | .ok o => o.require t

def removeDisk (paths : SysPaths) (t : HostTree) (path : String) :
    Except StorageError Unit × HostTree :=
  carryOut t (removalOrder paths t path)

/-- Has the size of a disk read again. -/
def rescanDisk (paths : SysPaths) (t : HostTree) (path : String) :
    Except StorageError Unit × HostTree :=
  carryOut t (resizeOrder paths path)

end HostStorage
