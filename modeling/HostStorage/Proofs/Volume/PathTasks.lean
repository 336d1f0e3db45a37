import HostStorage.Proofs.Command.Execution
import HostStorage.Proofs.Path.Guard
import HostStorage.Volume.Resizing

/-!
# Tools on paths in turn

Tools that act on paths run one after another until one fails or is not run at all because its path
leads to the root directory (`TaskRun`). What such a run leaves behind is told by its events: they
are commands of the tasks in turn, on cleaned paths, and all of them but the last one succeeded.
-/
namespace HostStorage

open HostStorage.Path (IsRootSpelling)

structure PathTask where
  program : String
  flags : List String
  path : String

/-- The command of a task. The path is cleaned and comes last. -/
def PathTask.command (t : PathTask) : Invocation := ⟨t.program, t.flags ++ [Path.cleaned t.path]⟩

def runTasks : List PathTask → Exec Unit
  | [] => pure ()
  | t :: rest => do
    let _ ← runOnPath t.program t.flags t.path
    runTasks rest

/-- A run of tasks in turn, from the commands before it to all commands then. -/
inductive TaskRun (runner : Runner) :
    Trace → List PathTask → Except StorageError Unit → Trace → Prop
  | done (trace : Trace) : TaskRun runner trace [] (.ok ()) trace
  | refused {t : PathTask} (rest : List PathTask) (trace : Trace) (root : IsRootSpelling t.path) :
      TaskRun runner trace (t :: rest) (.error (.invalidPath "/")) trace
  | failed {t : PathTask} (rest : List PathTask) {trace : Trace} {e : StorageError}
      (notRoot : ¬ IsRootSpelling t.path)
      (failure : Exec.succeeded t.program t.command.arguments (runner trace t.command) = .error e) :
      TaskRun runner trace (t :: rest) (.error e) (trace ++ [.of runner trace t.command])
  | succeeded {t : PathTask} {rest : List PathTask} {trace final : Trace}
      {result : Except StorageError Unit} (notRoot : ¬ IsRootSpelling t.path)
      (success : (CommandEvent.of runner trace t.command).failed = false)
      (later : TaskRun runner (trace ++ [.of runner trace t.command]) rest result final) :
      TaskRun runner trace (t :: rest) result final

variable {runner : Runner} {trace final : Trace} {t : PathTask} {tasks : List PathTask}
  {result : Except StorageError Unit}

theorem PathTask.after_runOnPath_of_root (root : IsRootSpelling t.path) :
    (runOnPath t.program t.flags t.path).after runner trace =
      (.error (.invalidPath "/"), trace) := by
  have refused : (Exec.check (cleanedPath t.path)).after runner trace =
      (.error (.invalidPath "/"), trace) := by
    rw [Exec.after_check, cleanedPath_of_rootSpelling root]
  exact Exec.after_bind_of_error runner trace _ refused

theorem PathTask.after_runOnPath (notRoot : ¬ IsRootSpelling t.path) :
    (runOnPath t.program t.flags t.path).after runner trace =
      (Exec.succeeded t.program t.command.arguments (runner trace t.command),
        trace ++ [.of runner trace t.command]) := by
  have passed : (Exec.check (cleanedPath t.path)).after runner trace =
      (.ok (Path.cleaned t.path), trace) := by
    rw [Exec.after_check, cleanedPath_of_not_rootSpelling notRoot]
  exact (Exec.after_bind_of_ok runner trace _ passed).trans (Exec.after_runChecked runner trace _ _)

theorem TaskRun.after_eq (run : TaskRun runner trace tasks result final) :
    (runTasks tasks).after runner trace = (result, final) := by
  induction run with
  | done trace => rfl
  | refused rest trace root =>
    exact Exec.after_bind_of_error runner trace _ (PathTask.after_runOnPath_of_root root)
  | failed rest notRoot failure =>
    refine Exec.after_bind_of_error runner _ _ ?_
    rw [PathTask.after_runOnPath notRoot, failure]
  | @succeeded t rest trace final result notRoot success later ih =>
    obtain ⟨output, answer⟩ := (Exec.failed_eq_false_iff runner trace).1 success
    have ran : (runOnPath t.program t.flags t.path).after runner trace =
        (.ok output, trace ++ [.of runner trace t.command]) := by
      rw [PathTask.after_runOnPath notRoot]
      exact Prod.ext answer rfl
    exact (Exec.after_bind_of_ok runner trace _ ran).trans ih

/-- Tasks always come to an end. -/
theorem exists_taskRun (runner : Runner) (trace : Trace) (tasks : List PathTask) :
    ∃ result final, TaskRun runner trace tasks result final := by
  induction tasks generalizing trace with
  | nil => exact ⟨_, _, .done trace⟩
  | cons t rest ih =>
    by_cases root : IsRootSpelling t.path
    · exact ⟨_, _, .refused rest trace root⟩
    · cases failed : (CommandEvent.of runner trace t.command).failed with
      | true =>
        obtain ⟨e, failure⟩ := (Exec.failed_eq_true_iff runner trace).1 failed
        exact ⟨_, _, .failed rest root failure⟩
      | false =>
        obtain ⟨result, final, later⟩ := ih (trace ++ [.of runner trace t.command])
        exact ⟨result, final, .succeeded root failed later⟩

/-- Tasks in turn do what their one run does. -/
theorem after_runTasks_eq_iff :
    (runTasks tasks).after runner trace = (result, final) ↔
      TaskRun runner trace tasks result final := by
  refine ⟨fun ends => ?_, TaskRun.after_eq⟩
  obtain ⟨result', final', run⟩ := exists_taskRun runner trace tasks
  rw [run.after_eq] at ends
  cases ends
  exact run

/-! ## The events of a run -/

/-- What the events of tasks in turn have in common, and what they tell of the result. -/
structure EventsOfTasks (tasks : List PathTask) (result : Except StorageError Unit)
    (events : Trace) : Prop where
  inTurn : events.map (·.invocation) <+: tasks.map PathTask.command
  onlyAfterSuccess : events.Pairwise fun earlier _ => earlier.failed = false
  guarded : ∀ e ∈ events, ∃ t ∈ tasks, e.invocation = t.command ∧ ¬ IsRootSpelling t.path
  succeeds_iff : result = .ok () ↔
    events.map (·.invocation) = tasks.map PathTask.command ∧ ∀ e ∈ events, e.failed = false

theorem EventsOfTasks.done : EventsOfTasks [] (.ok ()) [] where
  inTurn := List.nil_prefix
  onlyAfterSuccess := .nil
  guarded := nofun
  succeeds_iff := by simp

theorem EventsOfTasks.refused (t : PathTask) (rest : List PathTask) (e : StorageError) :
    EventsOfTasks (t :: rest) (.error e) [] where
  inTurn := List.nil_prefix
  onlyAfterSuccess := .nil
  guarded := nofun
  succeeds_iff := by simp

theorem EventsOfTasks.failed {rest : List PathTask} {e : CommandEvent}
    (ofTask : e.invocation = t.command) (notRoot : ¬ IsRootSpelling t.path)
    (failure : e.failed = true) (cause : StorageError) :
    EventsOfTasks (t :: rest) (.error cause) [e] where
  inTurn := by simp [ofTask]
  onlyAfterSuccess := List.pairwise_singleton _ _
  guarded := by
    intro e' listed
    rw [List.mem_singleton.1 listed]
    exact ⟨t, List.mem_cons_self, ofTask, notRoot⟩
  succeeds_iff := by simp [failure]

/-- A success in front adds its event to those that follow. -/
theorem EventsOfTasks.succeeded {rest : List PathTask} {e : CommandEvent} {events : Trace}
    (ofTask : e.invocation = t.command) (notRoot : ¬ IsRootSpelling t.path)
    (success : e.failed = false) (later : EventsOfTasks rest result events) :
    EventsOfTasks (t :: rest) result (e :: events) where
  inTurn := by
    rw [List.map_cons, List.map_cons, ofTask, List.prefix_cons_inj]
    exact later.inTurn
  onlyAfterSuccess := List.pairwise_cons.2 ⟨fun _ _ => success, later.onlyAfterSuccess⟩
  guarded := by
    intro e' listed
    cases listed with
    | head => exact ⟨t, List.mem_cons_self, ofTask, notRoot⟩
    | tail _ listed =>
      obtain ⟨t', among, ofTask', notRoot'⟩ := later.guarded e' listed
      exact ⟨t', List.mem_cons_of_mem t among, ofTask', notRoot'⟩
  succeeds_iff := by
    rw [later.succeeds_iff, List.map_cons, List.map_cons, ofTask, List.cons_inj_right,
      List.forall_mem_cons]
    simp [success]

/-- A run adds its events to the commands before it. -/
theorem TaskRun.events (run : TaskRun runner trace tasks result final) :
    ∃ events, final = trace ++ events ∧ EventsOfTasks tasks result events := by
  induction run with
  | done trace => exact ⟨[], (List.append_nil trace).symm, .done⟩
  | @refused t rest trace root => exact ⟨[], (List.append_nil trace).symm, .refused t rest _⟩
  | @failed t rest trace e notRoot failure =>
    have failed := (Exec.failed_eq_true_iff runner trace).2 ⟨e, failure⟩
    exact ⟨_, rfl, .failed rfl notRoot failed e⟩
  | @succeeded t rest trace final result notRoot success later ih =>
    obtain ⟨events, added, told⟩ := ih
    refine ⟨.of runner trace t.command :: events, ?_, told.succeeded rfl notRoot success⟩
    rw [added, List.append_assoc]
    rfl

/-! ## Commands on cleaned paths -/

/-- A command whose last argument is a cleaned path other than the root directory. -/
def Invocation.ActsOnCleanPath (tools : List (String × List String)) (i : Invocation) : Prop :=
  ∃ program flags path, (program, flags) ∈ tools ∧ i = ⟨program, flags ++ [path]⟩ ∧
    Path.cleaned path = path ∧ path ≠ "/"

theorem PathTask.actsOnCleanPath {tools : List (String × List String)}
    (tool : (t.program, t.flags) ∈ tools) (notRoot : ¬ IsRootSpelling t.path) :
    t.command.ActsOnCleanPath tools :=
  ⟨t.program, t.flags, Path.cleaned t.path, tool, rfl, Path.cleaned_cleaned t.path,
    fun root => notRoot ((Path.cleaned_eq_root_iff t.path).1 root)⟩

/-- What one task runs. -/
theorem PathTask.runs_on_clean_path {tools : List (String × List String)} (runner : Runner)
    (tool : (t.program, t.flags) ∈ tools) :
    ∀ e ∈ ((runOnPath t.program t.flags t.path).perform runner).2,
      e.invocation.ActsOnCleanPath tools := by
  intro e listed
  rw [Exec.perform_eq] at listed
  by_cases root : IsRootSpelling t.path
  · rw [PathTask.after_runOnPath_of_root root] at listed
    cases listed
  · rw [PathTask.after_runOnPath root, List.nil_append] at listed
    rw [List.mem_singleton.1 listed]
    exact PathTask.actsOnCleanPath tool root

/-- Tasks of some tools run commands of these tools on cleaned paths only. -/
theorem EventsOfTasks.act_on_clean_paths {tools : List (String × List String)} {events : Trace}
    (told : EventsOfTasks tasks result events)
    (among : ∀ t ∈ tasks, (t.program, t.flags) ∈ tools) :
    ∀ e ∈ events, e.invocation.ActsOnCleanPath tools := by
  intro e listed
  obtain ⟨t, task, ofTask, notRoot⟩ := told.guarded e listed
  rw [ofTask]
  exact PathTask.actsOnCleanPath (among t task) notRoot

end HostStorage
