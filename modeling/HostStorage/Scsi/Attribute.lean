import HostStorage.Error
import HostStorage.Host.Access

/-!
# Writing attributes

The kernel takes orders through attribute files: a value is added to a file that has to exist. A
sweep tries every order of a plan, whatever becomes of the ones before it, and reports each try.
-/
namespace HostStorage

/-- A value for an attribute file. -/
structure Order where
  file : String
  value : String
  deriving DecidableEq, Repr

/-- A try to write an attribute file, with its failure if it failed. -/
structure Try where
  file : String
  failure : Option IoFailure
  deriving DecidableEq, Repr

def Order.carryOut (o : Order) (t : HostTree) : Try × HostTree :=
  match t.written o.file o.value with
  | .ok t => (⟨o.file, none⟩, t)
  | .error f => (⟨o.file, some f⟩, t)

/-- The tries of a plan in order, and the tree after them. -/
def sweep (t : HostTree) : List Order → List Try × HostTree
  | [] => ([], t)
  | o :: rest =>
    let (this, t) := o.carryOut t
    let (tries, t) := sweep t rest
    (this :: tries, t)

def Order.require (o : Order) (t : HostTree) : Except StorageError Unit × HostTree :=
  match t.written o.file o.value with
  | .ok t => (.ok (), t)
  | .error f => (.error (.unwritable o.file f), t)

/-- The names of the entries of a class directory, unless the class does not exist. -/
def classEntries? (t : HostTree) (directory : String) :
    Except StorageError (Option (List String)) :=
  match t.names directory with
  | .ok names => .ok (some names)
  | .error f => if f.isMissing then .ok none else .error (.unreadable directory f)

/-- The trimmed text of an attribute file, unless it cannot be read. -/
def attribute? (t : HostTree) (path : String) : Option String :=
  match t.contentText path with
  | .ok s => some (Text.trimmed s)
  | .error _ => none

def isHostName (name : String) : Bool := Text.startsWith name "host"

end HostStorage
