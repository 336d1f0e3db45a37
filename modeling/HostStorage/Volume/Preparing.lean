import HostStorage.Mount.Mounting
import HostStorage.Volume.Format

/-!
# Preparing volumes

A volume is mounted first and formatted only if that fails and the volume holds no data: a disk
with a file system of its own or with children is never formatted.
-/
namespace HostStorage

/-- The file system on a disk, empty if there is none. -/
def diskFormat (disk : String) : Exec String := do
  let _ ← Exec.check (cleanedPath disk)
  let output ← Exec.runChecked "lsblk" ["-n", "-o", "FSTYPE", disk]
  return diskFormatOf output.stdoutText

def mkfsProgram (fsType : String) : String := "mkfs." ++ fsType

/-- Mounts a volume and formats it before that if it is blank. The second mount asks for the type
that was made and is tried whatever the formatting reports, since another caller may have formatted
the volume meanwhile. -/
def formatAndMount (noDiscard : Bool) (source target fsType : String) (options : List String) :
    Exec Unit := do
  Exec.check (checkMountArguments source target fsType options)
  let (kept, formatOptions) := splitFormatOption options
  let options := kept ++ ["defaults"]
  match ← Exec.attempt (mount source target fsType options) with
  | .ok () => return ()
  | .error mountError =>
    let existing ← diskFormat source
    if existing.isEmpty then
      let made := fsTypeOrDefault fsType
      let _ ← Exec.run (mkfsProgram made) (mkfsArguments made source formatOptions noDiscard)
      mount source target made options
    else if fsType == existing then throw mountError
    else throw (.formatMismatch fsType existing mountError)

/-- Makes a file system on a volume without mounting it. -/
def format (noDiscard : Bool) (source target fsType : String) (options : List String) :
    Exec Unit := do
  Exec.check (checkMountArguments source target fsType options)
  let made := fsTypeOrDefault fsType
  let _ ← Exec.runChecked (mkfsProgram made)
    (mkfsArguments made source (splitFormatOption options).2 noDiscard)

end HostStorage
