import HostStorage.Host.Resolve

/-!
# Access to files

Reading files, directories and links, adding to files, and what stands at the end of a path. Each
access resolves its path first and then fails by what it finds there.
-/
namespace HostStorage

open HostStorage.Path (Name Place)

namespace HostTree

/-- What stands at a place that a walk has reached. -/
def found (t : HostTree) (p : Place) : Except IoFailure Node :=
  match t.node? p with
  | some n => .ok n
  | none => .error (.os .noEntry)

/-- The node at the end of a path. -/
def status (t : HostTree) (follow : Bool) (path : String) : Except IoFailure Node := do
  t.found (← t.resolve follow path)

/-- The path of the place that a path leads to through all links. -/
def canonical (t : HostTree) (path : String) : Except IoFailure String :=
  (t.canonicalPlace path).map pathOf

def content (t : HostTree) (path : String) : Except IoFailure Bytes := do
  match ← t.status true path with
  | .file content => .ok content
  | .directory => .error (.os .isDirectory)
  | _ => .ok []

def contentText (t : HostTree) (path : String) : Except IoFailure String := do
  match Utf8.read? (← t.content path) with
  | some s => .ok s
  | none => .error .notUtf8

/-- The names of the entries of a directory, in order. -/
def names (t : HostTree) (path : String) : Except IoFailure (List String) := do
  let place ← t.resolve true path
  match ← t.found place with
  | .directory => .ok ((t.childNames place).map String.ofList)
  | _ => .error (.os .notDirectory)

def linkTarget (t : HostTree) (path : String) : Except IoFailure String := do
  match ← t.status false path with
  | .link target => .ok target
  | _ => .error (.os .invalid)

/-- The tree after a text is added at the end of an existing file. -/
def written (t : HostTree) (path value : String) : Except IoFailure HostTree := do
  let place ← t.resolve true path
  match ← t.found place with
  | .directory => .error (.os .isDirectory)
  | _ => .ok (t.append place (Utf8.bytes value))

end HostTree
end HostStorage
