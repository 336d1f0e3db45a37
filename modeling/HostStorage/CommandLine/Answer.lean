import HostStorage.CommandLine.Commands
import HostStorage.Host.Service
import HostStorage.Json.Writer
import HostStorage.Simulation.State

/-!
# Answers on the command line

What a run of the program prints and how it ends: zero after success and after showing help, one
after an error, two after a command line that cannot be understood.
-/
namespace HostStorage.CommandLine

structure Answer where
  exitCode : Nat
  output : String := ""
  error : Option StorageError := none

/-- What is printed for a reply: its value in a line or more, or raw output as text. -/
def printed (json : Bool) : Reply → String
  | .output octets => Utf8.lossy octets
  | reply =>
    let text? := if json then reply.json?.map (Json.pretty "") else
      reply.listing?.map (Listing.indented "")
    (text?.map (· ++ "\n")).getD ""

def Answer.ofResult (json : Bool) : Except StorageError Reply → Answer
  | .ok reply => { exitCode := 0, output := printed json reply }
  | .error e => { exitCode := 1, error := some e }

def Answer.ofRefusal : Refusal → Answer
  | .help => { exitCode := 0 }
  | .misuse => { exitCode := 2 }

def Answer.errorLine? (a : Answer) : Option String := a.error.map (·.listing.inline)

/-- Carries out a plan on a host with the given files, or on a fresh simulated host. -/
def Plan.perform (p : Plan) (tree : HostTree) (runner : Runner)
    (start : Invocation → Except IoFailure ProcessRun) : Performed :=
  if p.simulated then ⟨(SimulatedHost.perform tree {} p.request).1, tree, [], []⟩
  else Host.perform { paths := p.paths, tree } runner start p.request

end HostStorage.CommandLine
