import HostStorage.Scsi.Attribute
import HostStorage.Scsi.Lun
import HostStorage.SysPaths
import HostStorage.Text.Lowercase

/-!
# Targets behind hosts

Which hosts see an array: a Fibre Channel port is seen by the host in the name of its remote port,
an iSCSI name by the host of the session that is logged in to it.
-/
namespace HostStorage

/-- A host with a channel and a target on it, either of which may be the wildcard. -/
structure HostTarget where
  host : String
  channel : String
  target : String
  deriving DecidableEq, Repr

def remotePortStart : String := "rport-"

/-- The host in the name of a remote port: what stands between its start and the first colon. -/
def remotePortHost (name : String) : String :=
  "host" ++ (Text.splitAt ':' (Text.without remotePortStart name)).headD ""

/-- Whether the name of a remote port is one of those wanted, which are in small letters. -/
def isWantedPort (paths : SysPaths) (t : HostTree) (wanted : List String) (name : String) : Bool :=
  Text.startsWith name remotePortStart &&
    match attribute? t (Path.below (Path.below paths.fcRemotePorts name) "port_name") with
    | some told => wanted.contains (Text.lowercased told)
    | none => false

/-- The hosts that see one of the ports, each once, with every channel and target. -/
def fcTargets (paths : SysPaths) (t : HostTree) (portNames : List String) :
    Except StorageError (List HostTarget) := do
  let wanted := portNames.map Text.lowercased
  let entries := (← classEntries? t paths.fcRemotePorts).getD []
  let hosts := (entries.filter (isWantedPort paths t wanted)).map remotePortHost
  return hosts.eraseDups.map fun host => ⟨host, wildcard, wildcard⟩

def targetStart : String := "target"

def HostTarget.ofName? (name : String) : Option HostTarget :=
  match Text.splitAt ':' (Text.without targetStart name) with
  | host :: channel :: target :: _ => some ⟨"host" ++ host, channel, target⟩
  | _ => none

/-- The target of a session: the one in the name of its first target directory. -/
def sessionTarget? (paths : SysPaths) (t : HostTree) (session : String) : Option HostTarget :=
  match t.names (Path.below (Path.below paths.iscsiSessions session) "device") with
  | .ok entries => (entries.find? (Text.startsWith · targetStart)).bind HostTarget.ofName?
  | .error _ => none

/-- Whether an entry is a session that is logged in to one of the names. -/
def isWantedSession (paths : SysPaths) (t : HostTree) (wanted : List String) (session : String) :
    Bool :=
  Text.startsWith session "session" &&
    match attribute? t (Path.below (Path.below paths.iscsiSessions session) "targetname") with
    | some told => wanted.contains told
    | none => false

/-- The targets of the sessions that are logged in to one of the names, each once. -/
def iscsiTargets (paths : SysPaths) (t : HostTree) (names : List String) :
    Except StorageError (List HostTarget) := do
  let entries := (← classEntries? t paths.iscsiSessions).getD []
  let sessions := entries.filter (isWantedSession paths t names)
  return (sessions.filterMap (sessionTarget? paths t)).eraseDups

end HostStorage
