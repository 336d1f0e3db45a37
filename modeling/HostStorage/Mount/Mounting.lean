import HostStorage.Checks
import HostStorage.Command.Run
import HostStorage.Mount.Options

/-!
# Mounting

Arguments are checked before the mount command runs. The kernel ignores most options of a bind
mount, so a bind mount takes a second command that remounts with the other options.
-/
namespace HostStorage

def mountOnce (source target fsType : String) (options : List String) : Exec Unit := do
  Exec.check (checkMountArguments source target fsType options)
  let _ ← Exec.runChecked "mount" (mountArguments source target fsType options)

/-- Binds a directory to another place and then applies the options. -/
def bindMount (source target : String) (options : List String) : Exec Unit := do
  mountOnce source target "" ["bind"]
  mountOnce source target "" (remountOptions options)

/-- Mounts a source, in two steps if the options ask for a bind mount. -/
def mount (source target fsType : String) (options : List String) : Exec Unit :=
  if asksBind options then bindMount source target options
  else mountOnce source target fsType options

end HostStorage
