import HostStorage.Error
import HostStorage.Host.Access

/-!
# Device nodes

A path is accepted as a device if it leads, through any links, to a device node.
-/
namespace HostStorage

def deviceNode (t : HostTree) (source : String) : Except StorageError String := do
  let _ ← (t.status false source).mapError .io
  let resolved ← (t.canonical source).mapError .io
  match ← (t.status true source).mapError .io with
  | .device => .ok resolved
  | _ => .error (.invalidDevice resolved)

end HostStorage
