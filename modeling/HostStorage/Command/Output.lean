import HostStorage.Text.Utf8

/-!
# Output of commands

What is known about a command that ran to its end: whether it succeeded, its exit code unless a
signal ended it, and what it wrote.
-/
namespace HostStorage

structure CommandOutput where
  success : Bool
  code : Option Int
  stdout : Bytes
  stderr : Bytes
  deriving DecidableEq, Repr

namespace CommandOutput

/-- Success without any output. -/
def silent : CommandOutput := ⟨true, some 0, [], []⟩

def stdoutText (o : CommandOutput) : String := Utf8.lossy o.stdout

/-- The standard output as text and then the error output as text. -/
def combined (o : CommandOutput) : String := Utf8.lossy o.stdout ++ Utf8.lossy o.stderr

def reason (o : CommandOutput) : String :=
  match o.code with
  | some c => "exit status " ++ toString c
  | none => "terminated by signal"

end CommandOutput
end HostStorage
