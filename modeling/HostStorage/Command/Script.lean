import HostStorage.Command.Run

/-!
# Scripted commands

A script answers commands from a queue: each command takes the oldest waiting answer for its
program, or succeeds silently when none waits. A program may also be refused, which takes
precedence and leaves no call.
-/
namespace HostStorage

/-- Waiting answers and refusals by program, oldest first, and the calls made so far. -/
structure Script where
  refusals : List (String × Errno) := []
  answers : List (String × CommandOutput) := []
  calls : List Invocation := []

namespace Script

/-- The value of the first entry for a key, and the list without this entry. -/
def take? {α : Type} (key : String) : List (String × α) → Option (α × List (String × α))
  | [] => none
  | e :: rest =>
    if e.1 = key then some (e.2, rest)
    else (take? key rest).map fun p => (p.1, e :: p.2)

def respond (s : Script) (program : String) (output : CommandOutput) : Script :=
  { s with answers := s.answers ++ [(program, output)] }

def refuse (s : Script) (program : String) (errno : Errno) : Script :=
  { s with refusals := s.refusals ++ [(program, errno)] }

def run (s : Script) (i : Invocation) : Outcome × Script :=
  match take? i.program s.refusals with
  | some (errno, refusals) => (.error (.os errno), { s with refusals })
  | none =>
    let s := { s with calls := s.calls ++ [i] }
    match take? i.program s.answers with
    | some (output, answers) => (.ok output, { s with answers })
    | none => (.ok .silent, s)

/-- The script after the commands of a trace. -/
def after (s : Script) (trace : Trace) : Script :=
  trace.foldl (fun s e => (s.run e.invocation).2) s

def runner (s : Script) : Runner := fun trace i => ((s.after trace).run i).1

end Script
end HostStorage
