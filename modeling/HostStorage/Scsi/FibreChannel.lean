import HostStorage.Scsi.Attribute
import HostStorage.SysPaths

/-!
# Fibre Channel hosts

The names of the local ports, and the initialisation of the loops behind them. A machine without
such hosts has no names and nothing to initialise.
-/
namespace HostStorage

def fcHosts (paths : SysPaths) (t : HostTree) : Except StorageError (List String) := do
  return ((← classEntries? t paths.fcHosts).getD []).filter isHostName

/-- The names of the local ports; a host whose name cannot be read is skipped. -/
def fcPortNames (paths : SysPaths) (t : HostTree) : Except StorageError (List String) := do
  return (← fcHosts paths t).filterMap fun host =>
    attribute? t (Path.below (Path.below paths.fcHosts host) "port_name")

def loopOrder (paths : SysPaths) (host : String) : Order :=
  ⟨Path.below (Path.below paths.fcHosts host) "issue_lip", "1"⟩

/-- The error of a sweep: that of the last failed try. -/
def lastFailure? (tries : List Try) : Option StorageError :=
  (tries.filterMap fun a => a.failure.map (StorageError.unwritable a.file)).getLast?

def sweepResult (tries : List Try) : Except StorageError Unit :=
  match lastFailure? tries with
  | some e => .error e
  | none => .ok ()

/-- Initialises the loop of every host; shows the tries, the result and the tree after them. -/
def initialiseLoops (paths : SysPaths) (t : HostTree) :
    List Try × Except StorageError Unit × HostTree :=
  match fcHosts paths t with
  | .error e => ([], .error e, t)
  | .ok hosts =>
    let (tries, t) := sweep t (hosts.map (loopOrder paths))
    (tries, sweepResult tries, t)

end HostStorage
