import HostStorage.Error
import HostStorage.Host.Access
import HostStorage.SysPaths

/-!
# Controllers of NVMe namespaces

A namespace that is attached over a fabric lies below a controller, whose place has the name `ctl`
on its way. The controller is the name in front of the namespace.
-/
namespace HostStorage

open HostStorage.Path (Name Place)

/-- The name directly in front of the last occurrence of `device`. -/
def nameBefore? (device : Name) : List Name → Option Name
  | [] => none
  | [_] => none
  | before :: name :: rest =>
    match nameBefore? device (name :: rest) with
    | some found => some found
    | none => if name = device then some before else none

/-- The controller that the place of a namespace tells; empty if it is not on a fabric. -/
def controllerOf (device : String) (place : Place) : Except StorageError String :=
  if place.contains "ctl".toList then
    match nameBefore? device.toList place with
    | some name =>
      if "nvme".toList.isPrefixOf name then .ok (String.ofList name)
      else .error (.controllerNotFound device)
    | none => .error (.controllerNotFound device)
  else .ok ""

def nvmeController (paths : SysPaths) (t : HostTree) (device : String) :
    Except StorageError String :=
  let link := Path.below paths.sysBlock device
  match t.status false link with
  | .error f =>
    .error (if f.isMissing then .deviceDoesNotExist device else .unreadable link f)
  | .ok _ => do
    let place ← (t.canonicalPlace link).mapError (.unreadable link)
    controllerOf device place

end HostStorage
