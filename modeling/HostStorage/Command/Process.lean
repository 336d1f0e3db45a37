import HostStorage.Text.Utf8

/-!
# Processes

How a started program ends: with an exit code or by a signal, and in words. A process that never
ends is told apart from one that does.
-/
namespace HostStorage

inductive Ending where
  | exited (code : Nat) | killed (signal : Nat)
  deriving DecidableEq, Repr

namespace Ending

/-- The names of the signals by number, from one on. -/
def signalNames : List String :=
  ["SIGHUP", "SIGINT", "SIGQUIT", "SIGILL", "SIGTRAP", "SIGABRT", "SIGBUS", "SIGFPE", "SIGKILL",
    "SIGUSR1", "SIGSEGV", "SIGUSR2", "SIGPIPE", "SIGALRM", "SIGTERM", "SIGSTKFLT", "SIGCHLD",
    "SIGCONT", "SIGSTOP", "SIGTSTP", "SIGTTIN", "SIGTTOU", "SIGURG", "SIGXCPU", "SIGXFSZ",
    "SIGVTALRM", "SIGPROF", "SIGWINCH", "SIGIO", "SIGPWR", "SIGSYS"]

/-- The name of a signal in parentheses, if it has one. -/
def signalNote (signal : Nat) : String :=
  match ("" :: signalNames)[signal]? with
  | none | some "" => ""
  | some name => " (" ++ name ++ ")"

def text : Ending → String
  | .exited code => "exit status: " ++ toString code
  | .killed signal => "signal: " ++ toString signal ++ signalNote signal

def isSuccess (e : Ending) : Bool := e == .exited 0

end Ending

/-- What a started process does: it ends after writing some output, or it never ends. -/
inductive ProcessRun where
  | ends (ending : Ending) (stdout stderr : Bytes) | hangs
  deriving DecidableEq, Repr

def ProcessRun.silent : ProcessRun := .ends (.exited 0) [] []

end HostStorage
