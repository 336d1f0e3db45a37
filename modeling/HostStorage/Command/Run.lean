import HostStorage.Command.Output
import HostStorage.Error

/-!
# Running commands

Operations that drive external tools are written over an abstract runner, which decides the outcome
of a command from the commands that were run before it. The trace of an operation lists its
commands in order with their outcomes, including those that could not be started, and is kept when
the operation fails.
-/
namespace HostStorage

structure Invocation where
  program : String
  arguments : List String
  deriving DecidableEq, Repr

def Invocation.line (i : Invocation) : String := Text.joined " " (i.program :: i.arguments)

/-- What came of starting a command. -/
abbrev Outcome := Except IoFailure CommandOutput

/-- A command that was run or could not be started. -/
structure CommandEvent where
  invocation : Invocation
  outcome : Outcome

/-- The commands of an operation, the first one first. -/
abbrev Trace := List CommandEvent

/-- Decides the outcome of a command, given the commands before it. -/
abbrev Runner := Trace → Invocation → Outcome

/-- An operation that runs commands. -/
abbrev Exec := ReaderT Runner (ExceptT StorageError (StateM Trace))

namespace Exec

/-- Goes on with a value or fails with an error. -/
def check {α : Type} : Except StorageError α → Exec α
  | .ok a => pure a
  | .error e => throw e

/-- Runs a command and adds it to the trace. -/
def run (program : String) (arguments : List String) : Exec Outcome := fun runner => do
  let trace ← get
  let outcome := runner trace ⟨program, arguments⟩
  set (trace ++ [CommandEvent.mk ⟨program, arguments⟩ outcome])
  return outcome

/-- The output of a command, unless it could not be started or did not succeed. -/
def succeeded (program : String) (arguments : List String) :
    Outcome → Except StorageError CommandOutput
  | .error e => .error (.commandFailed program (Text.joined " " arguments) e.message "")
  | .ok o =>
    if o.success then .ok o
    else .error (.commandFailed program (Text.joined " " arguments) o.reason o.combined)

def runChecked (program : String) (arguments : List String) : Exec CommandOutput := do
  check (succeeded program arguments (← run program arguments))

/-- The result of an operation as a value, so that the caller can go on after an error. -/
def attempt {α : Type} (op : Exec α) : Exec (Except StorageError α) :=
  tryCatch (Except.ok <$> op) fun e => pure (.error e)

def perform {α : Type} (op : Exec α) (runner : Runner) : Except StorageError α × Trace :=
  let (result, trace) := (op runner).run []
  (result, trace)

end Exec
end HostStorage
