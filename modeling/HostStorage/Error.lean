import HostStorage.Text.Utf8
import HostStorage.Duration
import HostStorage.Host.Errno
import HostStorage.Listing

/-!
# Errors of storage operations

One cause per constructor, with what the caller needs to know about it. The wording of each cause
is in `StorageError.message`, its one-line record in `StorageError.listing`.
-/
namespace HostStorage

inductive StorageError where
  | invalidPath (path : String) | invalidFsType (fsType : String)
  | invalidMountOption (option : String) | invalidMultipathOption (option : String)
  | notFound (what : String) | deviceNotFound
  | deviceDoesNotExist (device : String) | controllerNotFound (device : String)
  | deviceBlocked (device : String) | invalidDevice (path : String)
  | unreadable (path : String) (cause : IoFailure)
  | unwritable (path : String) (cause : IoFailure)
  | inconsistentRead (path : String) (attempts : Nat)
  | commandFailed (command arguments reason output : String)
  | multipathFailed (command arguments reason : String) (output : Bytes)
  | timeout (command : String) (after : Duration)
  | unmountFailed (target reason : String)
  | formatMismatch (requested existing : String) (cause : StorageError)
  | unsupportedResize (fsType : String)
  | malformed (what : String)
  | notImplemented
  | induced (operation : String)
  | io (cause : IoFailure)

namespace StorageError

def commandMessage (command arguments reason output : String) : String :=
  command ++ " failed: " ++ reason ++ "\narguments: " ++ arguments ++ "\noutput: " ++ output

def message : StorageError → String
  | .invalidPath p => "Path: " ++ p ++ " is invalid"
  | .invalidFsType t => "FsType: " ++ t ++ " is invalid"
  | .invalidMountOption o => "Mount option: " ++ o ++ " is invalid"
  | .invalidMultipathOption o => "Multipath option: " ++ o ++ " is invalid"
  | .notFound what => what ++ " not found"
  | .deviceNotFound => "Device not found"
  | .deviceDoesNotExist d => "device " ++ d ++ " does not exist"
  | .controllerNotFound d => "controller not found for device " ++ d
  | .deviceBlocked d => "device " ++ d ++ " is in blocked state, refusing to delete it"
  | .invalidDevice p => "invalid device: " ++ p
  | .unreadable p cause => "Cannot read " ++ p ++ ": " ++ cause.message
  | .unwritable p cause => "Cannot write " ++ p ++ ": " ++ cause.message
  | .inconsistentRead p n =>
    "could not get consistent content of " ++ p ++ " after " ++ toString n ++ " attempts"
  | .commandFailed c a r o => commandMessage c a r o
  | .multipathFailed c a r o => commandMessage c a r (Utf8.lossy o)
  | .timeout c d => c ++ " timed out after " ++ d.text
  | .unmountFailed t r => "unmount failed: " ++ r ++ "\nunmounting arguments: " ++ t
  | .formatMismatch requested existing cause =>
    "failed to mount volume as " ++ Text.quoted requested ++ "; already contains " ++ existing ++
      ": error: " ++ message cause
  | .unsupportedResize t => "filesystem " ++ Text.quoted t ++ " not supported to resize"
  | .malformed what => "failed to parse " ++ what
  | .notImplemented => "not implemented"
  | .induced op => op ++ " induced error"
  | .io cause => "IO error: " ++ cause.message

/-- Whether a lookup tried every candidate without an input or output failure. -/
def isNotFound : StorageError → Bool
  | .notFound _ | .deviceNotFound | .deviceDoesNotExist _ | .controllerNotFound _ => true
  | _ => false

def causeMessage? : StorageError → Option String
  | .unreadable _ c | .unwritable _ c | .io c => some c.message
  | .formatMismatch _ _ c => some c.message
  | _ => none

end StorageError

def IoFailure.listing : IoFailure → Listing
  | .os e => .record "Os"
      [("code", .atom (toString e.code)), ("kind", .atom e.kind), ("message", .text e.wording)]
  | .other text => .record "Custom" [("kind", .atom "Other"), ("error", .text text)]
  | f => .record "Error" [("kind", .atom f.kind), ("message", .text f.message)]

def StorageError.listing : StorageError → Listing
  | .invalidPath p => .tuple "InvalidPath" [.text p]
  | .invalidFsType t => .tuple "InvalidFsType" [.text t]
  | .invalidMountOption o => .tuple "InvalidMountOption" [.text o]
  | .invalidMultipathOption o => .tuple "InvalidMultipathOption" [.text o]
  | .notFound what => .tuple "NotFound" [.text what]
  | .deviceNotFound => .atom "DeviceNotFound"
  | .deviceDoesNotExist d => .tuple "DeviceDoesNotExist" [.text d]
  | .controllerNotFound d => .tuple "ControllerNotFound" [.text d]
  | .deviceBlocked d => .tuple "DeviceBlocked" [.text d]
  | .invalidDevice p => .tuple "InvalidDevice" [.text p]
  | .unreadable p c => .record "SysfsRead" [("path", .text p), ("source", c.listing)]
  | .unwritable p c => .record "SysfsWrite" [("path", .text p), ("source", c.listing)]
  | .inconsistentRead p n =>
    .record "InconsistentRead" [("path", .text p), ("attempts", .number n)]
  | .commandFailed c a r o => .record "CommandFailed"
      [("command", .text c), ("args", .text a), ("reason", .text r), ("output", .text o)]
  | .multipathFailed c a r o => .record "MultipathFailed"
      [("command", .text c), ("args", .text a), ("reason", .text r),
        ("output", .list (o.map fun b => .number b.toNat))]
  | .timeout c d => .record "Timeout" [("command", .text c), ("timeout", .atom d.text)]
  | .unmountFailed t r => .record "Unmount" [("target", .text t), ("reason", .text r)]
  | .formatMismatch requested existing cause => .record "FormatMismatch"
      [("requested", .text requested), ("existing", .text existing), ("source", cause.listing)]
  | .unsupportedResize t => .tuple "UnsupportedResize" [.text t]
  | .malformed what => .tuple "Parse" [.text what]
  | .notImplemented => .atom "NotImplemented"
  | .induced op => .tuple "Induced" [.text op]
  | .io c => .tuple "Io" [c.listing]

end HostStorage
