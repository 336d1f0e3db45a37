import HostStorage.Error
import HostStorage.Path.Route
import HostStorage.Text.Word

/-!
# Checks on arguments

What is refused before any command is run or any file of the host is touched. The root directory is
never a valid path; file system types come from a fixed list; a mount option that is not blank
needs a word character; an argument of the multipath tool is a flag or a path other than the root.
-/
namespace HostStorage

def supportedFsTypes : List String := ["ext3", "ext4", "xfs", "nfs"]

/-- Refuses the root directory and nothing else. -/
def checkPath (path : String) : Except StorageError Unit :=
  if path = "/" then .error (.invalidPath path) else .ok ()

/-- The cleaned path, unless it is the root directory. -/
def cleanedPath (path : String) : Except StorageError String := do
  checkPath (Path.cleaned path)
  return Path.cleaned path

def checkFsType (fsType : String) : Except StorageError Unit :=
  if fsType ∈ supportedFsTypes then .ok () else .error (.invalidFsType fsType)

/-- Whether an option is blank or has a word character. -/
def isMountOption (option : String) : Bool :=
  Text.allBlank option.toList || option.toList.any Text.isWord

/-- Refuses the first option that is no mount option. -/
def checkMountOptions (options : List String) : Except StorageError Unit :=
  match options.find? (!isMountOption ·) with
  | some option => .error (.invalidMountOption option)
  | none => .ok ()

/-- Checks the source, the target, the type unless it is empty, and the options, in this order. -/
def checkMountArguments (source target fsType : String) (options : List String) :
    Except StorageError Unit := do
  checkPath source
  checkPath target
  if !fsType.isEmpty then checkFsType fsType
  checkMountOptions options

/-- Whether an argument is a dash followed by letters and digits. -/
def isFlag (argument : String) : Bool :=
  match argument.toList with
  | '-' :: c :: r => (c :: r).all Char.isAlphanum
  | _ => false

def isMultipathArgument (argument : String) : Bool :=
  isFlag argument || Path.cleaned argument != "/"

/-- Refuses the first argument that names the root directory. -/
def checkMultipathArguments (arguments : List String) : Except StorageError Unit :=
  match arguments.find? (!isMultipathArgument ·) with
  | some argument => .error (.invalidMultipathOption argument)
  | none => .ok ()

end HostStorage
