import HostStorage.Command.Script
import HostStorage.Proofs.Mount.Phase
import HostStorage.Volume.Preparing

/-!
# The stages of a preparation

Mounting a volume that may have to be formatted, as a machine: each stage runs one command, and its
outcome decides the next stage. The machine says nothing about monads or about checks of arguments
that were accepted before; `formatAndMount_eq_iff_run` says that the operation takes exactly its
runs.
-/
namespace HostStorage

/-- What is asked for: a volume, its place, its type if that matters, and the options. -/
structure Preparation where
  noDiscard : Bool
  source : String
  target : String
  fsType : String
  options : List String

namespace Preparation

inductive Stage where
  | mounting (now : List String) (later : List (List String))
  | asking (mountError : StorageError)
  | formatting
  | retrying (now : List String) (later : List (List String))
  | ended (result : Except StorageError Unit)

/-- The stage of a phase that has some mounts left, which ends well when none is. -/
def enter (stage : List String → List (List String) → Stage) : List (List String) → Stage
  | [] => .ended (.ok ())
  | now :: later => stage now later

variable (p : Preparation)

/-- The stage after a mount: the rest of its phase, or what follows its failure. -/
def afterMount {α : Type} (stage : List String → List (List String) → Stage)
    (onFailure : StorageError → Stage) (later : List (List String)) : Except StorageError α → Stage
  | .ok _ => enter stage later
  | .error e => onFailure e

def mountOptions : List String := (splitFormatOption p.options).1 ++ ["defaults"]

def mountsAs (fsType : String) : List (List String) :=
  mountVectors p.source p.target fsType p.mountOptions

def typeQuery : Invocation := ⟨"lsblk", ["-n", "-o", "FSTYPE", p.source]⟩

/-- The command that formats the volume, as ext4 if no type was asked for. -/
def formatCommand : Invocation :=
  let made := fsTypeOrDefault p.fsType
  ⟨mkfsProgram made, mkfsArguments made p.source (splitFormatOption p.options).2 p.noDiscard⟩

/-- The type is asked for after a failed mount, but not of a path that leads to the root
directory. -/
def afterFailure (mountError : StorageError) : Stage :=
  match cleanedPath p.source with
  | .ok _ => .asking mountError
  | .error refused => .ended (.error refused)

/-- A blank volume is formatted; one that has the requested type surfaces the error of the mount. -/
def afterAnswer (mountError : StorageError) (existing : String) : Stage :=
  if existing = "" then .formatting
  else if existing = p.fsType then .ended (.error mountError)
  else .ended (.error (.formatMismatch p.fsType existing mountError))

/-- The first stage; refused arguments end the preparation. -/
def start : Stage :=
  match checkMountArguments p.source p.target p.fsType p.options with
  | .ok () => enter .mounting (p.mountsAs p.fsType)
  | .error e => .ended (.error e)

def command? : Stage → Option Invocation
  | .mounting now _ | .retrying now _ => some (mountCommand now)
  | .asking _ => some p.typeQuery
  | .formatting => some p.formatCommand
  | .ended _ => none

/-- The stage after the command of a stage. What formatting reports does not matter. -/
def advance (stage : Stage) (outcome : Outcome) : Stage :=
  match stage with
  | .mounting now later =>
    afterMount .mounting p.afterFailure later (Exec.succeeded "mount" now outcome)
  | .asking mountError =>
    match Exec.succeeded "lsblk" p.typeQuery.arguments outcome with
    | .ok output => p.afterAnswer mountError (diskFormatOf output.stdoutText)
    | .error e => .ended (.error e)
  | .formatting => enter .retrying (p.mountsAs (fsTypeOrDefault p.fsType))
  | .retrying now later =>
    afterMount .retrying (fun e => .ended (.error e)) later (Exec.succeeded "mount" now outcome)
  | .ended result => .ended result

/-- A run from a stage to the end of the preparation, with all commands then. -/
inductive Run (runner : Runner) : Stage → Trace → Except StorageError Unit → Trace → Prop
  | ended (result : Except StorageError Unit) (trace : Trace) :
      Run runner (.ended result) trace result trace
  | command {stage : Stage} {trace final : Trace} {result : Except StorageError Unit}
      {i : Invocation} (runs : p.command? stage = some i)
      (rest : Run runner (p.advance stage (runner trace i)) (trace ++ [.of runner trace i]) result
        final) :
      Run runner stage trace result final

variable {p} {runner : Runner} {trace final : Trace} {result : Except StorageError Unit}

/-- A run is determined by its stage and the commands before it. -/
theorem Run.unique {stage : Stage} (run : p.Run runner stage trace result final)
    {result' : Except StorageError Unit} {final' : Trace}
    (run' : p.Run runner stage trace result' final') : result = result' ∧ final = final' := by
  induction run with
  | ended result trace =>
    cases run' with
    | ended => exact ⟨rfl, rfl⟩
    | command runs => cases runs
  | command runs rest ih =>
    cases run' with
    | ended => cases runs
    | command runs' rest' =>
      rw [runs] at runs'
      cases runs'
      exact ih rest'

/-- A phase runs its mounts in turn until one fails; the run goes on from there. -/
theorem run_phase {stage : List String → List (List String) → Stage}
    {onFailure : StorageError → Stage}
    (runs : ∀ now later, p.command? (stage now later) = some (mountCommand now))
    (advances : ∀ now later outcome, p.advance (stage now later) outcome =
      afterMount stage onFailure later (Exec.succeeded "mount" now outcome))
    {vectors : List (List String)} {answer : Except StorageError Unit} {middle : Trace}
    (phase : Exec.runAll runner trace (vectors.map mountCommand) = (answer, middle))
    (rest : p.Run runner (afterMount stage onFailure [] answer) middle result final) :
    p.Run runner (enter stage vectors) trace result final := by
  induction vectors generalizing trace with
  | nil =>
    cases phase
    exact rest
  | cons now later ih =>
    apply Run.command (runs now later)
    rw [advances]
    rw [List.map_cons, Exec.runAll] at phase
    cases outcome : Exec.succeeded "mount" now (runner trace (mountCommand now)) with
    | ok output =>
      simp only [mountCommand_program, mountCommand_arguments, outcome] at phase
      exact ih phase
    | error e =>
      simp only [mountCommand_program, mountCommand_arguments, outcome] at phase
      cases phase
      exact rest

theorem run_mounting {vectors : List (List String)} {answer : Except StorageError Unit}
    {middle : Trace}
    (phase : Exec.runAll runner trace (vectors.map mountCommand) = (answer, middle))
    (rest : p.Run runner (afterMount .mounting p.afterFailure [] answer) middle result final) :
    p.Run runner (enter .mounting vectors) trace result final :=
  run_phase (fun _ _ => rfl) (fun _ _ _ => rfl) phase rest

theorem run_retrying {vectors : List (List String)}
    (phase : Exec.runAll runner trace (vectors.map mountCommand) = (result, final)) :
    p.Run runner (enter .retrying vectors) trace result final := by
  apply run_phase (fun _ _ => rfl) (fun _ _ _ => rfl) phase
  cases result with
  | ok _ => exact .ended _ _
  | error e => exact .ended _ _

/-- The type of a volume is asked for with one command. -/
theorem after_diskFormat (disk : String) :
    (diskFormat disk).after runner trace =
      match cleanedPath disk with
      | .ok _ =>
        ((Exec.succeeded "lsblk" ["-n", "-o", "FSTYPE", disk]
            (runner trace ⟨"lsblk", ["-n", "-o", "FSTYPE", disk]⟩)).map
          fun output => diskFormatOf output.stdoutText,
          trace ++ [.of runner trace ⟨"lsblk", ["-n", "-o", "FSTYPE", disk]⟩])
      | .error e => (.error e, trace) := by
  rw [diskFormat, Exec.after_bind, Exec.after_check]
  cases cleanedPath disk with
  | error e => rfl
  | ok _ =>
    simp only [Exec.after_bind, Exec.after_runChecked]
    cases Exec.succeeded "lsblk" ["-n", "-o", "FSTYPE", disk]
      (runner trace ⟨"lsblk", ["-n", "-o", "FSTYPE", disk]⟩) <;> rfl

/-- Leaving out the format arguments leaves options that were asked for. -/
theorem splitFormatOption_subset (options : List String) :
    (splitFormatOption options).1 ⊆ options := by
  unfold splitFormatOption
  split
  · split
    · exact List.dropLast_subset options
    · exact List.Subset.refl options
  · exact List.Subset.refl options

/-- Accepted arguments stay accepted for the mounts of a preparation, with the type asked for and
with the type that is made. -/
theorem accepted_mounts (accepted : AcceptedMount p.source p.target p.fsType p.options)
    {fsType : String} (type : fsType = p.fsType ∨ fsType = fsTypeOrDefault p.fsType) :
    AcceptedMount p.source p.target fsType p.mountOptions := by
  refine ⟨accepted.sourceNotRoot, accepted.targetNotRoot, ?_, ?_⟩
  · rcases type with rfl | rfl
    · exact accepted.typeSupported
    · unfold fsTypeOrDefault
      split
      · right
        decide
      · exact accepted.typeSupported
  · intro option listed
    rcases List.mem_append.1 listed with kept | added
    · exact accepted.optionsValid option (splitFormatOption_subset p.options kept)
    · rw [List.mem_singleton.1 added]
      decide

variable (p) in
def recovery (mountError : StorageError) : Exec Unit := do
  let existing ← diskFormat p.source
  if existing.isEmpty then
    let _ ← Exec.run p.formatCommand.program p.formatCommand.arguments
    mount p.source p.target (fsTypeOrDefault p.fsType) p.mountOptions
  else if p.fsType == existing then throw mountError
  else throw (.formatMismatch p.fsType existing mountError)

theorem formatAndMount_eq : formatAndMount p.noDiscard p.source p.target p.fsType p.options =
    (do
      Exec.check (checkMountArguments p.source p.target p.fsType p.options)
      match ← Exec.attempt (mount p.source p.target p.fsType p.mountOptions) with
      | .ok () => return ()
      | .error mountError => p.recovery mountError) := by
  rfl

/-- A blank volume is formatted and then mounted, whatever the formatting reports. -/
theorem run_formatting (accepted : AcceptedMount p.source p.target p.fsType p.options)
    (asked : Trace) :
    p.Run runner .formatting asked
      ((mount p.source p.target (fsTypeOrDefault p.fsType) p.mountOptions).after runner
        (asked ++ [.of runner asked p.formatCommand])).1
      ((mount p.source p.target (fsTypeOrDefault p.fsType) p.mountOptions).after runner
        (asked ++ [.of runner asked p.formatCommand])).2 := by
  apply Run.command rfl
  apply run_retrying
  rw [after_mount runner _ (accepted_mounts accepted (Or.inr rfl))]
  rfl

/-- After a failed mount the preparation goes on as its machine does. -/
theorem run_recovery (accepted : AcceptedMount p.source p.target p.fsType p.options)
    (mountError : StorageError) (failed : Trace) :
    p.Run runner (p.afterFailure mountError) failed ((p.recovery mountError).after runner failed).1
      ((p.recovery mountError).after runner failed).2 := by
  rw [recovery, Exec.after_bind, after_diskFormat]
  unfold afterFailure
  cases cleanedPath p.source with
  | error refused => exact .ended _ _
  | ok _ =>
    apply Run.command rfl
    simp only [advance, typeQuery]
    cases Exec.succeeded "lsblk" ["-n", "-o", "FSTYPE", p.source]
      (runner failed ⟨"lsblk", ["-n", "-o", "FSTYPE", p.source]⟩) with
    | error e => exact .ended _ _
    | ok output =>
      simp only [Except.map, afterAnswer]
      generalize diskFormatOf output.stdoutText = existing
      by_cases blank : existing = ""
      · have isEmpty : existing.isEmpty = true := by simp [blank]
        simp only [if_pos blank, if_pos isEmpty, Exec.after_bind, Exec.after_run]
        exact run_formatting accepted _
      · have notEmpty : ¬ existing.isEmpty = true := by simp [blank]
        simp only [if_neg blank, if_neg notEmpty]
        by_cases same : existing = p.fsType
        · rw [if_pos same, if_pos (by simp [same])]
          exact .ended _ _
        · rw [if_neg same, if_neg (by simpa using Ne.symm same)]
          exact .ended _ _

/-- The operation takes a run of the machine from its first stage. -/
theorem run_formatAndMount (p : Preparation) (runner : Runner) :
    let performed :=
      (formatAndMount p.noDiscard p.source p.target p.fsType p.options).perform runner
    p.Run runner p.start [] performed.1 performed.2 := by
  simp only [Exec.perform_eq, formatAndMount_eq, Exec.after_bind, Exec.after_check, start]
  cases checked : checkMountArguments p.source p.target p.fsType p.options with
  | error e => exact .ended _ _
  | ok _ =>
    have accepted := (checkMountArguments_eq_ok_iff _ _ _ _).1 checked
    simp only [Exec.after_attempt, after_mount runner [] (accepted_mounts accepted (Or.inl rfl))]
    rcases phase : Exec.runAll runner []
      ((mountVectors p.source p.target p.fsType p.mountOptions).map mountCommand)
      with ⟨answer, middle⟩
    apply run_mounting phase
    cases answer with
    | ok _ => exact .ended _ _
    | error e => exact run_recovery accepted e middle

/-- Format arguments are no bind request, so leaving them out keeps what is asked for. -/
theorem asksBind_mountOptions (p : Preparation) :
    asksBind p.mountOptions = true ↔ "bind" ∈ p.options := by
  have added : asksBind p.mountOptions = true ↔ "bind" ∈ (splitFormatOption p.options).1 := by
    simp [asksBind, mountOptions]
  rw [added]
  refine ⟨fun kept => splitFormatOption_subset p.options kept, fun asked => ?_⟩
  unfold splitFormatOption
  split
  next last isLast =>
    split
    next raw marked =>
      obtain ⟨before, whole⟩ := List.getLast?_eq_some_iff.1 isLast
      have notBind : "bind" ≠ last := by
        rintro rfl
        cases marked
      rw [whole] at asked ⊢
      simpa [notBind] using asked
    next => exact asked
  next => exact asked

/-- The second phase differs from the first one only where no type was asked for: then it names the
type that was made, unless the volume is bound. -/
theorem mountsAs_made (p : Preparation) :
    p.mountsAs (fsTypeOrDefault p.fsType) =
      if p.fsType = "" ∧ "bind" ∉ p.options then
        (p.mountsAs "").map fun arguments => ["-t", defaultFsType] ++ arguments
      else p.mountsAs p.fsType := by
  by_cases untyped : p.fsType = ""
  · have made : fsTypeOrDefault p.fsType = defaultFsType := by simp [fsTypeOrDefault, untyped]
    by_cases asked : "bind" ∈ p.options
    · have bind := (asksBind_mountOptions p).2 asked
      have unchanged : ¬ (p.fsType = "" ∧ "bind" ∉ p.options) := fun both => both.2 asked
      rw [if_neg unchanged]
      simp only [mountsAs, mountVectors, if_pos bind]
    · have single : ¬ asksBind p.mountOptions = true :=
        fun bind => asked ((asksBind_mountOptions p).1 bind)
      have named : p.fsType = "" ∧ "bind" ∉ p.options := ⟨untyped, asked⟩
      rw [if_pos named, made]
      simp [mountsAs, mountVectors, if_neg single, mountArguments, defaultFsType]
  · have unchanged : ¬ (p.fsType = "" ∧ "bind" ∉ p.options) := fun both => untyped both.1
    rw [if_neg unchanged]
    simp [fsTypeOrDefault, untyped]

end Preparation

/-- Preparing a volume takes exactly the runs of the machine. -/
theorem formatAndMount_eq_iff_run (noDiscard : Bool) (source target fsType : String)
    (options : List String) (runner : Runner) (result : Except StorageError Unit) (trace : Trace) :
    let p : Preparation := ⟨noDiscard, source, target, fsType, options⟩
    ((formatAndMount noDiscard source target fsType options).perform runner = (result, trace) ↔
      p.Run runner p.start [] result trace) ∧
    p.mountsAs (fsTypeOrDefault fsType) =
      if fsType = "" ∧ "bind" ∉ options then
        (p.mountsAs "").map fun arguments => ["-t", defaultFsType] ++ arguments
      else p.mountsAs fsType := by
  intro p
  refine ⟨⟨fun performed => ?_, fun run => ?_⟩, p.mountsAs_made⟩
  · have run := p.run_formatAndMount runner
    rw [performed] at run
    exact run
  · obtain ⟨sameResult, sameTrace⟩ := run.unique (p.run_formatAndMount runner)
    rw [sameResult, sameTrace]

/-- The mount after the formatting names the type that was made, which the first mount did not. -/
theorem retry_names_made_type :
    ((formatAndMount false "/dev/sdz1" "/mnt/x" "" []).perform
      (Script.runner { answers := [("mount", ⟨false, some 32, [], []⟩)] })).2.map (·.invocation) =
      [⟨"mount", ["-o", "defaults", "/dev/sdz1", "/mnt/x"]⟩,
        ⟨"lsblk", ["-n", "-o", "FSTYPE", "/dev/sdz1"]⟩,
        ⟨"mkfs.ext4", ["-F", "/dev/sdz1"]⟩,
        ⟨"mount", ["-t", "ext4", "-o", "defaults", "/dev/sdz1", "/mnt/x"]⟩] := by
  decide +kernel

end HostStorage
