import HostStorage.Command.Run

/-!
# How operations run

What an operation over a runner leads to when it starts after some commands: its result, and all
commands then. The equations below follow the way operations are composed, so that no later proof
opens the monad. Commands that run in turn until one fails are described without the monad by
`runAll`. Operations only add commands to those before them (`KeepsTrace`).
-/
namespace HostStorage

/-- Whether a command could not be started or did not succeed. -/
def CommandEvent.failed (e : CommandEvent) : Bool :=
  match e.outcome with
  | .ok o => !o.success
  | .error _ => true

def CommandEvent.of (runner : Runner) (trace : Trace) (i : Invocation) : CommandEvent :=
  ⟨i, runner trace i⟩

@[simp] theorem CommandEvent.of_invocation (runner : Runner) (trace : Trace) (i : Invocation) :
    (CommandEvent.of runner trace i).invocation = i := rfl

@[simp] theorem CommandEvent.of_outcome (runner : Runner) (trace : Trace) (i : Invocation) :
    (CommandEvent.of runner trace i).outcome = runner trace i := rfl

namespace Exec

variable {α β : Type} (runner : Runner) (trace : Trace)

/-- The result of an operation that starts after some commands, and all commands then. -/
def after (op : Exec α) (runner : Runner) (trace : Trace) : Except StorageError α × Trace :=
  (op runner).run trace

theorem perform_eq (op : Exec α) : op.perform runner = op.after runner [] := rfl

theorem perform_eq_ok_iff {op : Exec α} {a : α} :
    (op.perform runner).1 = .ok a ↔ ∃ final, op.after runner [] = (.ok a, final) :=
  ⟨fun isOk => ⟨_, Prod.ext isOk rfl⟩, fun ⟨_, isOk⟩ => congrArg Prod.fst isOk⟩

@[simp] theorem after_pure (a : α) : (pure a : Exec α).after runner trace = (.ok a, trace) := rfl

/-- The second operation starts where the first one ended, unless that failed. -/
theorem after_bind (op : Exec α) (next : α → Exec β) :
    (op >>= next).after runner trace =
      match op.after runner trace with
      | (.ok a, middle) => (next a).after runner middle
      | (.error e, middle) => (.error e, middle) := by
  change StateT.run (ExceptT.bind (op runner) fun a => next a runner) trace = _
  simp only [after, ExceptT.run, ExceptT.bind, ExceptT.mk, StateT.run, bind, StateT.bind,
    ExceptT.bindCont]
  cases op runner trace with
  | mk result middle => cases result <;> rfl

theorem after_bind_of_ok {op : Exec α} {a : α} {middle : Trace} (next : α → Exec β)
    (succeeds : op.after runner trace = (.ok a, middle)) :
    (op >>= next).after runner trace = (next a).after runner middle := by
  rw [after_bind, succeeds]

theorem after_bind_of_error {op : Exec α} {e : StorageError} {middle : Trace} (next : α → Exec β)
    (fails : op.after runner trace = (.error e, middle)) :
    (op >>= next).after runner trace = (.error e, middle) := by
  rw [after_bind, fails]

/-- Two operations succeed when the first one does and the second one does where it ended. -/
theorem after_bind_eq_ok_iff {op : Exec α} {next : α → Exec β} {b : β} {final : Trace} :
    (op >>= next).after runner trace = (.ok b, final) ↔ ∃ a middle,
      op.after runner trace = (.ok a, middle) ∧ (next a).after runner middle = (.ok b, final) := by
  rw [after_bind]
  rcases op.after runner trace with ⟨result, middle⟩
  cases result with
  | error e => simp
  | ok a =>
    constructor
    · intro succeeds
      exact ⟨a, middle, rfl, succeeds⟩
    · rintro ⟨_, _, same, succeeds⟩
      cases same
      exact succeeds

/-- What only works on the value of an operation runs nothing. -/
theorem trace_perform_bind_pure (op : Exec α) (f : α → β) :
    ((op >>= fun a => pure (f a)).perform runner).2 = (op.perform runner).2 := by
  rw [perform_eq, perform_eq]
  rcases ends : op.after runner [] with ⟨result, middle⟩
  cases result with
  | error e => rw [after_bind_of_error runner [] _ ends]
  | ok a => rw [after_bind_of_ok runner [] _ ends, after_pure]

@[simp] theorem after_check (r : Except StorageError α) :
    (check r).after runner trace = (r, trace) := by
  cases r <;> rfl

theorem after_run (program : String) (arguments : List String) :
    (run program arguments).after runner trace =
      (.ok (runner trace ⟨program, arguments⟩), trace ++ [.of runner trace ⟨program, arguments⟩]) :=
  rfl

theorem after_runChecked (program : String) (arguments : List String) :
    (runChecked program arguments).after runner trace =
      (succeeded program arguments (runner trace ⟨program, arguments⟩),
        trace ++ [.of runner trace ⟨program, arguments⟩]) := by
  rw [runChecked, after_bind, after_run]
  exact after_check runner _ _

/-- An attempt never fails and runs the commands of what is attempted. -/
theorem after_attempt (op : Exec α) :
    (attempt op).after runner trace =
      (.ok (op.after runner trace).1, (op.after runner trace).2) := by
  cases started : op runner trace with
  | mk result final =>
    cases result <;>
      simp only [attempt, after, ExceptT.run, tryCatch, tryCatchThe, MonadExceptOf.tryCatch,
        ExceptT.tryCatch, ExceptT.mk, bind, StateT.bind, Functor.map, ExceptT.map, started] <;>
      rfl

/-- A command that has to succeed does so exactly when it did not fail. -/
theorem failed_eq_false_iff {i : Invocation} :
    (CommandEvent.of runner trace i).failed = false ↔
      ∃ output, succeeded i.program i.arguments (runner trace i) = .ok output := by
  cases answer : runner trace i with
  | error failure => simp [succeeded, CommandEvent.failed, answer]
  | ok output =>
    cases success : output.success with
    | true => simp [succeeded, CommandEvent.failed, answer, success]
    | false => simp [succeeded, CommandEvent.failed, answer, success]

theorem failed_eq_true_iff {i : Invocation} :
    (CommandEvent.of runner trace i).failed = true ↔
      ∃ e, succeeded i.program i.arguments (runner trace i) = .error e := by
  rw [← Bool.not_eq_false, failed_eq_false_iff]
  cases succeeded i.program i.arguments (runner trace i) with
  | error e => simp
  | ok output => simp

/-- A command that has to succeed fails with an error that names it. -/
theorem commandFailed_of_succeeded {program : String} {arguments : List String} {outcome : Outcome}
    {e : StorageError} (failure : succeeded program arguments outcome = .error e) :
    ∃ reason output, e = .commandFailed program (Text.joined " " arguments) reason output := by
  cases outcome with
  | error notStarted =>
    cases failure
    exact ⟨_, _, rfl⟩
  | ok answered =>
    simp only [succeeded] at failure
    split at failure
    next => cases failure
    next =>
      cases failure
      exact ⟨_, _, rfl⟩

/-- The output of a command that has to succeed is the output of that command. -/
theorem outcome_of_succeeded {program : String} {arguments : List String} {outcome : Outcome}
    {output : CommandOutput} (success : succeeded program arguments outcome = .ok output) :
    outcome = .ok output ∧ output.success = true := by
  cases outcome with
  | error failure => cases success
  | ok answered =>
    simp only [succeeded] at success
    split at success
    next succeeds =>
      cases success
      exact ⟨rfl, succeeds⟩
    next => cases success

/-- A command that has to succeed gives its output when it ran and succeeded. -/
theorem after_runChecked_eq_ok_iff {program : String} {arguments : List String}
    {output : CommandOutput} {final : Trace} :
    (runChecked program arguments).after runner trace = (.ok output, final) ↔
      runner trace ⟨program, arguments⟩ = .ok output ∧ output.success = true ∧
        final = trace ++ [.of runner trace ⟨program, arguments⟩] := by
  rw [after_runChecked, Prod.mk.injEq]
  constructor
  · rintro ⟨success, rfl⟩
    obtain ⟨answer, succeeds⟩ := outcome_of_succeeded success
    exact ⟨answer, succeeds, rfl⟩
  · rintro ⟨answer, succeeds, rfl⟩
    rw [answer, succeeded, if_pos succeeds]
    exact ⟨rfl, rfl⟩

/-- The commands in turn until one fails: the result, and all commands then. -/
def runAll (runner : Runner) (trace : Trace) : List Invocation → Except StorageError Unit × Trace
  | [] => (.ok (), trace)
  | i :: rest =>
    match succeeded i.program i.arguments (runner trace i) with
    | .ok _ => runAll runner (trace ++ [.of runner trace i]) rest
    | .error e => (.error e, trace ++ [.of runner trace i])

@[simp] theorem runAll_nil : runAll runner trace [] = (.ok (), trace) := rfl

theorem runAll_of_not_failed {i : Invocation} (rest : List Invocation)
    (success : (CommandEvent.of runner trace i).failed = false) :
    runAll runner trace (i :: rest) = runAll runner (trace ++ [.of runner trace i]) rest := by
  obtain ⟨output, answer⟩ := (failed_eq_false_iff runner trace).1 success
  rw [runAll, answer]

theorem runAll_of_failed {i : Invocation} (rest : List Invocation)
    (failure : (CommandEvent.of runner trace i).failed = true) :
    ∃ e, runAll runner trace (i :: rest) = (.error e, trace ++ [.of runner trace i]) := by
  obtain ⟨e, answer⟩ := (failed_eq_true_iff runner trace).1 failure
  exact ⟨e, by rw [runAll, answer]⟩

/-- The commands after the first one run if that succeeds. -/
theorem runAll_cons (i : Invocation) (rest : List Invocation) :
    runAll runner trace (i :: rest) =
      match runAll runner trace [i] with
      | (.ok _, middle) => runAll runner middle rest
      | (.error e, middle) => (.error e, middle) := by
  simp only [runAll]
  cases succeeded i.program i.arguments (runner trace i) <;> rfl

/-- Commands that succeed in turn, each with its output. -/
def Answers (runner : Runner) : Trace → List (Invocation × CommandOutput) → Prop
  | _, [] => True
  | trace, (i, output) :: rest =>
    runner trace i = .ok output ∧ output.success = true ∧
      Answers runner (trace ++ [.of runner trace i]) rest

/-! ## Operations only add commands -/

/-- An operation that leaves the commands before it in front of its own. -/
def KeepsTrace (op : Exec α) : Prop := ∀ runner trace, trace <+: (op.after runner trace).2

theorem keepsTrace_check (r : Except StorageError α) : (check r).KeepsTrace := by
  intro runner trace
  simp only [after_check, List.prefix_refl]

theorem keepsTrace_run (program : String) (arguments : List String) :
    (run program arguments).KeepsTrace := by
  intro runner trace
  rw [after_run]
  exact List.prefix_append trace _

/-- What follows an operation adds to the commands of that operation. -/
theorem prefix_after_bind {op : Exec α} {next : α → Exec β} (keeps : ∀ a, (next a).KeepsTrace) :
    (op.after runner trace).2 <+: ((op >>= next).after runner trace).2 := by
  rw [after_bind]
  rcases op.after runner trace with ⟨result, middle⟩
  cases result with
  | error e => exact List.prefix_refl middle
  | ok a => exact keeps a runner middle

theorem KeepsTrace.bind {op : Exec α} {next : α → Exec β} (first : op.KeepsTrace)
    (keeps : ∀ a, (next a).KeepsTrace) : (op >>= next).KeepsTrace := by
  intro runner trace
  exact (first runner trace).trans (prefix_after_bind runner trace keeps)

theorem keepsTrace_runChecked (program : String) (arguments : List String) :
    (runChecked program arguments).KeepsTrace :=
  (keepsTrace_run program arguments).bind fun _ => keepsTrace_check _

end Exec
end HostStorage
