import HostStorage.Host.Access
import HostStorage.Mount.Table
import HostStorage.SysPaths

/-!
# Reading the mount table

The table is read until two readings in a row agree, since the kernel writes it piece by piece. The
files of a tree do not change by themselves, so the second reading settles it; without a second
reading there is no answer.
-/
namespace HostStorage

/-- The content of a file that two readings in a row agree on. -/
def consistentContent (t : HostTree) (path : String) (retries : Nat) :
    Except StorageError Bytes := do
  let first ← (t.content path).mapError .io
  match retries with
  | 0 => .error (.inconsistentRead path 0)
  | _ + 1 => .ok first

/-- All mounts, in the order of the table. -/
def mountsOf (paths : SysPaths) (scan : EntryScan) (t : HostTree) :
    Except StorageError (List MountRecord) := do
  let content ← consistentContent t paths.mountTable paths.mountTableRetries
  mountRecords scan (Utf8.lossy content)

def deviceMounts (paths : SysPaths) (scan : EntryScan) (t : HostTree) (device : String) :
    Except StorageError (List MountRecord) :=
  (mountsOf paths scan t).map (·.filter (·.device == device))

/-- The mounts that a file in the format of the table tells of; it is read once and has to be
text. -/
def mountsInFile (scan : EntryScan) (t : HostTree) (path : String) :
    Except StorageError (List MountRecord) := do
  mountRecords scan (← (t.contentText path).mapError .io)

end HostStorage
