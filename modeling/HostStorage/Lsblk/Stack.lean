import HostStorage.Checks
import HostStorage.Command.Run
import HostStorage.Lsblk.Row
import HostStorage.Lsblk.Version
import HostStorage.Lsblk.VolumeDevices
import HostStorage.Volume.BlockDevices

/-!
# Stacks of devices

What lies above and below a device, from the listing of the device lister. A pseudo device is looked
for first, then a multipath map; without either the device stands alone.
-/
namespace HostStorage

open LsblkVersion (canSort)

def lsblkCanSort : Exec Bool := do
  let output ← Exec.runChecked "lsblk" ["-V"]
  return canSort (← Exec.check (LsblkVersion.parse output.stdoutText))

def deviceRows (sorted : Bool) : Exec (List DeviceRow) := do
  let output ← Exec.runChecked "lsblk" (if sorted then ["-Px", "MODE"] else ["-P"])
  return DeviceRow.ofListing output.stdoutText

def pseudoMark : String := "emcpower"

def mapMark : String := "mpath"

/-- The rows that concern a device, given a first listing and a way to get another one. -/
def concernedRows (id : String) (sorted : Bool) (rows : List DeviceRow) :
    Exec (List DeviceRow) := do
  let pseudo := rows.filter (·.mentionsBelow pseudoMark id)
  if !pseudo.isEmpty then return pseudo
  else if rows.any (·.mentionsBelow mapMark id) then
    return DeviceRow.withParents id none (← deviceRows sorted)
  else return rows.filter (·.mentions id)

/-- The first mount point that rows tell. -/
def firstMountPoint (rows : List DeviceRow) : String :=
  ((rows.find? (!·.mountPoint.isEmpty)).map (·.mountPoint)).getD ""

/-- The first row whose name starts with a mark. -/
def named? (mark : String) (rows : List DeviceRow) : Option DeviceRow :=
  rows.find? (Text.startsWith ·.name mark)

/-- The names of the SCSI disks and then of the NVMe namespaces, each once. -/
def diskNames (rows : List DeviceRow) : List String :=
  (["sd", "nvme"].flatMap fun mark =>
    (rows.filter (Text.startsWith ·.name mark)).map (·.name)).eraseDups

/-- The multipath map among rows: a name with the mark of maps, or else a row of that kind. -/
def mapName (rows : List DeviceRow) : String :=
  match named? mapMark rows with
  | some row => row.name
  | none => ((rows.find? (·.kind == "mpath")).map (·.name)).getD ""

/-- The volume name in the answer of the inquiry tool. -/
def inquiredWwn? (output : String) : Option String :=
  let lines := (Text.linesOf output).filter (Text.mentions · pseudoMark)
  (lines.findSome? fun line => (Text.wordsOf line)[3]?).map fun word =>
    String.ofList (Text.replaceFirst [':'] [] word.toList)

def disksBelow (paths : SysPaths) (t : HostTree) (pseudoDevice : String) :
    Exec (List String) := do
  let output ← Exec.runChecked paths.inquiryBin ["-wwn", "-dev", "/dev/" ++ pseudoDevice]
  match inquiredWwn? output.stdoutText with
  | some wwn => Exec.check (volumeBlockDevices paths t wwn)
  | none => throw (.malformed ("pp_inq output for " ++ pseudoDevice))

/-- The devices of the volume that a device belongs to. -/
def volumeDevices (paths : SysPaths) (t : HostTree) (id : String) : Exec VolumeDevices := do
  let _ ← Exec.check (cleanedPath id)
  let sorted ← lsblkCanSort
  let rows ← concernedRows id sorted (← deviceRows false)
  if rows.isEmpty then throw .deviceNotFound
  let mountPoint := firstMountPoint rows
  match named? pseudoMark rows with
  | some row =>
    let disks ← disksBelow paths t row.name
    return { disks, pseudoDevice := row.name, mountPoint }
  | none => return { disks := diskNames rows, map := mapName rows, mountPoint }

/-- The multipath map directly above a device, empty if there is none. -/
def mapAbove (device : String) : Exec String := do
  let _ ← Exec.check (cleanedPath device)
  let rows ← deviceRows (← lsblkCanSort)
  let near := DeviceRow.withChildren device 0 rows
  return ((near.find? (·.kind == "mpath")).map (·.name)).getD ""

end HostStorage
