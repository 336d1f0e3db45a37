import HostStorage.Checks
import HostStorage.Host.Access

/-!
# Unmounting

The kernel is asked directly. The files of a tree are not mounts of their own, and a caller without
the privilege to unmount is refused as soon as the path leads somewhere.
-/
namespace HostStorage

/-- The names of the failures of unmounting, with wordings of their own. -/
def unmountNames : List (Errno × String) :=
  [(.permission, "EPERM: Operation not permitted"), (.noEntry, "ENOENT: No such file or directory"),
    (.accessDenied, "EACCES: Permission denied"), (.notDirectory, "ENOTDIR: Not a directory"),
    (.invalid, "EINVAL: Invalid argument"), (.nameTooLong, "ENAMETOOLONG: File name too long"),
    (.linkLoop, "ELOOP: Too many symbolic links encountered")]

def unmountReason (e : Errno) : String := (unmountNames.lookup e).getD e.wording

/-- The number of a failure; a path that no system call accepts is an invalid argument. -/
def IoFailure.errno : IoFailure → Errno
  | .os e => e
  | _ => .invalid

def HostTree.unmountFailure (t : HostTree) (target : String) : Errno :=
  match t.resolve true target with
  | .ok _ => .permission
  | .error f => f.errno

/-- Unmounts a path other than the root. -/
def unmount (t : HostTree) (target : String) : Except StorageError Unit := do
  checkPath target
  .error (.unmountFailed target (unmountReason (t.unmountFailure target)))

end HostStorage
