import HostStorage.Checks
import HostStorage.Command.Process
import HostStorage.Command.Run
import HostStorage.SysPaths

/-!
# The multipath tool

Runs the tool with a deadline, on request inside another root. Its raw output is kept, also when it
fails.
-/
namespace HostStorage

/-- What is started: the tool itself, or the root changer with the tool. -/
def multipathInvocation (paths : SysPaths) (root : Option String) (arguments : List String) :
    Invocation :=
  match root.filter (!·.isEmpty) with
  | some directory => ⟨paths.chrootBin, directory :: paths.multipathBin :: arguments⟩
  | none => ⟨paths.multipathBin, arguments⟩

def multipathResult (i : Invocation) (deadline : Duration) :
    Except IoFailure ProcessRun → Except StorageError Bytes
  | .error f => .error (.commandFailed i.program (Text.joined " " i.arguments) f.message "")
  | .ok .hangs => .error (.timeout i.program deadline)
  | .ok (.ends ending stdout stderr) =>
    if deadline.isZero then .error (.timeout i.program deadline)
    else if ending.isSuccess then .ok (stdout ++ stderr)
    else .error (.multipathFailed i.program (Text.joined " " i.arguments) ending.text
      (stdout ++ stderr))

/-- Runs the tool after checking its arguments; also lists what was started. -/
def multipathCommand (paths : SysPaths) (start : Invocation → Except IoFailure ProcessRun)
    (deadline : Duration) (root : Option String) (arguments : List String) :
    Except StorageError Bytes × List Invocation :=
  match checkMultipathArguments arguments with
  | .error e => (.error e, [])
  | .ok () =>
    let i := multipathInvocation paths root arguments
    (multipathResult i deadline (start i), [i])

end HostStorage
