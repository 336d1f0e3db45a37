import HostStorage.Command.Run
import HostStorage.Host.Access

/-!
# Tools of a host

Executables of the tree answer their runs one after another; when the answers are used up, further
runs succeed silently. A program named without a separator is looked for in directories, one after
another. A directory where nothing is found, or where what is found may not be started, is passed
over; every other failure ends the search.
-/
namespace HostStorage

open HostStorage.Path (Place)

/-- The invocation, unless one of its words has a NUL character. -/
def Invocation.checked (i : Invocation) : Except IoFailure Invocation :=
  if (i.program :: i.arguments).any (·.toList.any (·.toNat == 0)) then .error .nulInArgument
  else .ok i

/-- The directories of a search path, which are written with colons between them; one that is too
long for a path is left out. -/
def searchDirectories (searchPath : String) : List String :=
  (Text.splitAt ':' searchPath).filter fun d => (Utf8.bytes d).length < HostTree.pathLimit

/-- The search path of an environment that sets none. -/
def usualSearchPath : String := "/bin:/usr/bin"

/-- The paths where a program is looked for: its own if it has a separator, else one in each
directory. The empty directory is the current one. -/
def programPaths (directories : List String) (program : String) : List String :=
  if Text.mentions program "/" then [program]
  else directories.map fun d => if d.isEmpty then program else d ++ "/" ++ program

/-- Whether the search for a program goes on after a failure. -/
def IoFailure.isPassedOver (f : IoFailure) : Bool :=
  f == .os .noEntry || f == .os .notDirectory || f == .os .accessDenied

/-- The failure of a search that passed over `earlier` and then failed with `later`: a denial is
told rather than that nothing was found. -/
def IoFailure.merged (earlier later : IoFailure) : IoFailure :=
  if earlier == .os .accessDenied && later.isPassedOver then earlier else later

namespace HostTree

/-- The place and the runs of the tool that a path names. -/
def tool (t : HostTree) (path : String) : Except IoFailure (Place × List ProcessRun) := do
  let place ← t.resolve true path
  match ← t.found place with
  | .tool runs => .ok (place, runs)
  | _ => .error (.os .accessDenied)

/-- Starts a program: what it does is the first of its runs. -/
def start (t : HostTree) (i : Invocation) : Except IoFailure ProcessRun := do
  let i ← i.checked
  let (_, runs) ← t.tool i.program
  .ok (runs.headD .silent)

/-- The tree after the tool that a path names was started: its first run is used up. -/
def spent (t : HostTree) (path : String) : HostTree :=
  match t.tool path with
  | .ok (place, runs) => t.put place (.tool runs.tail)
  | .error _ => t

def firstTool (t : HostTree) : List String → Except IoFailure String
  | [] => .error (.os .noEntry)
  | path :: rest =>
    match t.tool path with
    | .ok _ => .ok path
    | .error failure =>
      if rest.isEmpty || !failure.isPassedOver then .error failure
      else match t.firstTool rest with
        | .ok found => .ok found
        | .error later => .error (failure.merged later)

/-- What a search finds is one of the paths, and it names a tool. -/
theorem tool_of_firstTool {t : HostTree} {paths : List String} {path : String}
    (h : t.firstTool paths = .ok path) : path ∈ paths ∧ (t.tool path).isOk := by
  induction paths with
  | nil => simp [firstTool] at h
  | cons first rest ih =>
    unfold firstTool at h
    split at h
    next found =>
      cases Except.ok.inj h
      simp [found, Except.isOk, Except.toBool]
    next =>
      split at h
      · contradiction
      · split at h
        next later =>
          obtain ⟨member, named⟩ := ih (h ▸ later)
          exact ⟨List.mem_cons_of_mem _ member, named⟩
        next => contradiction

/-- The invocation with the path where its program is found. -/
def located (t : HostTree) (directories : List String) (i : Invocation) :
    Except IoFailure Invocation := do
  let i ← i.checked
  let path ← t.firstTool (programPaths directories i.program)
  .ok { i with program := path }

end HostTree

/-- What is known of a finished process. A process that never ends yields nothing. -/
def ProcessRun.output : ProcessRun → CommandOutput
  | .ends (.exited code) stdout stderr => ⟨code == 0, some code, stdout, stderr⟩
  | .ends (.killed _) stdout stderr => ⟨false, none, stdout, stderr⟩
  | .hangs => ⟨false, none, [], []⟩

namespace HostTree

/-- The invocations of a trace that were started, with the paths of their programs. -/
def startedIn (t : HostTree) (directories : List String) (trace : Trace) : List Invocation :=
  (trace.filter (·.outcome.isOk)).filterMap fun e =>
    (t.located directories e.invocation).toOption

/-- The tools of a tree as a runner of commands that looks for programs in some directories. -/
def runner (t : HostTree) (directories : List String) : Runner := fun trace i => do
  let i ← t.located directories i
  let t := (t.startedIn directories trace).foldl (fun t earlier => t.spent earlier.program) t
  let run ← t.start i
  .ok run.output

end HostTree
end HostStorage
