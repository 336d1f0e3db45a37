import HostStorage.Checks
import HostStorage.Command.Run
import HostStorage.Volume.Format

/-!
# Growing volumes

The ext family grows through the device, xfs through the mount point. A path that a tool acts on is
cleaned and never the root.
-/
namespace HostStorage

/-- Runs a tool on a path other than the root. -/
def runOnPath (program : String) (arguments : List String) (path : String) :
    Exec CommandOutput := do
  let path ← Exec.check (cleanedPath path)
  Exec.runChecked program (arguments ++ [path])

/-- Grows the file system of a volume. The partition table of a pseudo device is read again first;
a multipath map takes the place of the device and of the mount point. -/
def resizeFs (mountPoint device pseudoDevice map fsType : String) : Exec Unit := do
  let device := if pseudoDevice.isEmpty then device else "/dev/" ++ pseudoDevice
  if !pseudoDevice.isEmpty then
    let _ ← runOnPath "blockdev" ["--rereadpt"] device
  let mapped := "/dev/mapper/" ++ map
  if isExt fsType then
    let _ ← runOnPath "resize2fs" [] (if map.isEmpty then device else mapped)
  else if isXfs fsType then
    let _ ← runOnPath "xfs_growfs" ["-d"] (if map.isEmpty then mountPoint else mapped)
  else throw (.unsupportedResize fsType)

/-- Makes the multipath daemon take over the new size of a map. -/
def resizeMultipath (map : String) : Exec Unit := do
  let _ ← runOnPath "multipathd" ["resize", "map"] map

def mountedFsType (mountPoint : String) : Exec String := do
  let output ← runOnPath "findmnt" ["-n", "-o", "FSTYPE"] mountPoint
  return Text.trimmed output.stdoutText

end HostStorage
