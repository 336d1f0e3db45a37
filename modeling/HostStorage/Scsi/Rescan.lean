import HostStorage.Scsi.Targets

/-!
# Rescanning hosts

The hosts that see one of the targets are told to look for a unit; if none does, every host is.
-/
namespace HostStorage

def isIscsiName (target : String) : Bool := Text.startsWith target "iqn."

/-- Whether a target is the name of an array's Fibre Channel port. -/
def isPortName (target : String) : Bool := Text.startsWith target "0x50"

def scanFile (paths : SysPaths) (host : String) : String :=
  Path.below (Path.below paths.scsiHosts host) "scan"

def HostTarget.scanOrder (paths : SysPaths) (lun : String) (d : HostTarget) : Order :=
  ⟨scanFile paths d.host, Text.joined " " [d.channel, d.target, lun]⟩

/-- The order to look for a unit of every target of a host. -/
def hostScanOrder (paths : SysPaths) (lun host : String) : Order :=
  HostTarget.scanOrder paths lun ⟨host, wildcard, wildcard⟩

/-- What is found for the targets of one kind; the class is not looked at if there are none. -/
def targetsAmong (wanted : List String)
    (find : List String → Except StorageError (List HostTarget)) :
    Except StorageError (List HostTarget) :=
  if wanted.isEmpty then .ok [] else find wanted

/-- The targets that are seen, those on Fibre Channel first. -/
def seenTargets (paths : SysPaths) (t : HostTree) (targets : List String) :
    Except StorageError (List HostTarget) := do
  let onFc ← targetsAmong (targets.filter isPortName) (fcTargets paths t)
  let onIscsi ← targetsAmong (targets.filter isIscsiName) (iscsiTargets paths t)
  return onFc ++ onIscsi

def rescanPlan (paths : SysPaths) (t : HostTree) (targets : List String) (lun : String) :
    Except StorageError (List Order) := do
  let lun := Lun.normalized lun
  let seen ← seenTargets paths t targets
  if !seen.isEmpty then return seen.map (HostTarget.scanOrder paths lun)
  else
    let hosts ← (t.names paths.scsiHosts).mapError (.unreadable paths.scsiHosts)
    return (hosts.filter isHostName).map (hostScanOrder paths lun)

/-- Rescans for a unit, given in hexadecimal; empty stands for all units. -/
def rescan (paths : SysPaths) (t : HostTree) (targets : List String) (lun : String) :
    Except StorageError (List Try) × HostTree :=
  match rescanPlan paths t targets lun with
  | .error e => (.error e, t)
  | .ok plan =>
    let (tries, t) := sweep t plan
    (.ok tries, t)

end HostStorage
