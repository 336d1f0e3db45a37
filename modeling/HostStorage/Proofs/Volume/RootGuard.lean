import HostStorage.Proofs.Path.Guard
import HostStorage.Proofs.Volume.BlankDisk

/-!
# The guard of the root directory

Mounting and formatting refuse the root directory before they run a command, but they compare paths
as they are written: `/` is refused and every other spelling of the root is not
(`refusesPath_iff_written`). The question for the type of a disk does clean its path, so a
preparation refuses another spelling of the root after all, though only once its mounts have failed.
-/
namespace HostStorage

open HostStorage.Path (IsRootSpelling)

theorem checkPath_eq_error_iff {path : String} {e : StorageError} :
    checkPath path = .error e ↔ path = "/" ∧ e = .invalidPath "/" := by
  unfold checkPath
  split
  next root => simp [root, eq_comm]
  next other => simp [other]

/-- The root directory is refused as it is written, whatever else is asked for. -/
theorem checkMountArguments_of_root {source target : String} (root : source = "/" ∨ target = "/")
    (fsType : String) (options : List String) :
    checkMountArguments source target fsType options = .error (.invalidPath "/") := by
  rw [checkMountArguments, bind_eq_error_iff, checkPath_eq_error_iff]
  by_cases sourceRoot : source = "/"
  · exact Or.inl ⟨sourceRoot, rfl⟩
  · right
    refine ⟨(), (checkPath_eq_ok_iff source).2 sourceRoot, ?_⟩
    rw [bind_eq_error_iff, checkPath_eq_error_iff]
    exact Or.inl ⟨root.resolve_left sourceRoot, rfl⟩

/-- A path is found invalid only if it is the root directory as it is written. -/
theorem root_of_invalidPath {source target fsType path : String} {options : List String}
    (refused : checkMountArguments source target fsType options = .error (.invalidPath path)) :
    source = "/" ∨ target = "/" := by
  have notOption : checkMountOptions options ≠ .error (.invalidPath path) := by
    unfold checkMountOptions
    split <;> simp
  have notType : checkFsType fsType ≠ .error (.invalidPath path) := by
    unfold checkFsType
    split <;> simp
  simp only [checkMountArguments, bind_eq_error_iff] at refused
  rcases refused with sourceRefused | ⟨_, _, targetRefused | ⟨_, _, rest⟩⟩
  · exact Or.inl (checkPath_eq_error_iff.1 sourceRefused).1
  · exact Or.inr (checkPath_eq_error_iff.1 targetRefused).1
  · exfalso
    split at rest
    · rcases bind_eq_error_iff.1 rest with typeRefused | ⟨_, _, optionRefused⟩
      · exact notType typeRefused
      · exact notOption optionRefused
    · exact notOption rest

/-- An operation refuses a path before it runs any command. -/
def RefusesPath {α : Type} (op : Exec α) (runner : Runner) : Prop :=
  (∃ path, (op.perform runner).1 = .error (.invalidPath path)) ∧ (op.perform runner).2 = []

/-- An operation that checks the arguments of a mount before anything else, and runs a command when
they are accepted. -/
structure ChecksFirst {α : Type} (op : Exec α) (runner : Runner) (source target fsType : String)
    (options : List String) : Prop where
  refuses : ∀ e, checkMountArguments source target fsType options = .error e →
    op.perform runner = (.error e, [])
  runs : AcceptedMount source target fsType options → (op.perform runner).2 ≠ []

variable {α : Type} {op : Exec α} {runner : Runner} {source target fsType : String}
  {options : List String}

/-- Only the root directory as it is written makes such an operation refuse a path. -/
theorem ChecksFirst.refusesPath_iff (checks : ChecksFirst op runner source target fsType options) :
    RefusesPath op runner ↔ source = "/" ∨ target = "/" := by
  constructor
  · rintro ⟨⟨path, failed⟩, untouched⟩
    cases checked : checkMountArguments source target fsType options with
    | ok _ =>
      have accepted := (checkMountArguments_eq_ok_iff source target fsType options).1 checked
      exact absurd untouched (checks.runs accepted)
    | error e =>
      rw [checks.refuses e checked] at failed
      cases failed
      exact root_of_invalidPath checked
  · intro root
    have performed := checks.refuses _ (checkMountArguments_of_root root fsType options)
    exact ⟨⟨"/", by rw [performed]⟩, by rw [performed]⟩

/-- An operation that runs a command whatever it is given, so also with what follows it. -/
def RunsCommand (op : Exec α) (runner : Runner) : Prop := (op.after runner []).2 ≠ []

theorem RunsCommand.bind {β : Type} (runs : RunsCommand op runner) {next : α → Exec β}
    (keeps : ∀ a, (next a).KeepsTrace) : RunsCommand (op >>= next) runner := by
  intro nothing
  have kept : (op.after runner []).2 <+: ((op >>= next).after runner []).2 :=
    Exec.prefix_after_bind runner [] keeps
  rw [nothing] at kept
  exact runs (List.prefix_nil.1 kept)

theorem runsCommand_runChecked (runner : Runner) (program : String) (arguments : List String) :
    RunsCommand (Exec.runChecked program arguments) runner := by
  unfold RunsCommand
  rw [Exec.after_runChecked]
  simp

theorem after_check_of_accepted (runner : Runner)
    (accepted : AcceptedMount source target fsType options) :
    (Exec.check (checkMountArguments source target fsType options)).after runner [] =
      (.ok (), []) := by
  rw [Exec.after_check, (checkMountArguments_eq_ok_iff source target fsType options).2 accepted]

/-- The checks come first where they stand in front of an operation that runs a command. -/
theorem checksFirst_check {body : Unit → Exec α}
    (runs : AcceptedMount source target fsType options → RunsCommand (body ()) runner) :
    ChecksFirst (Exec.check (checkMountArguments source target fsType options) >>= body) runner
      source target fsType options := by
  constructor
  · intro e refused
    have fails : (Exec.check (checkMountArguments source target fsType options)).after runner [] =
        (.error e, []) := by
      rw [Exec.after_check, refused]
    exact Exec.after_bind_of_error runner [] body fails
  · intro accepted
    have passes := after_check_of_accepted runner accepted
    rw [Exec.perform_eq, Exec.after_bind_of_ok runner [] body passes]
    exact runs accepted

/-- What follows an operation undoes neither its checks nor its commands. -/
theorem ChecksFirst.bind {β : Type} (checks : ChecksFirst op runner source target fsType options)
    {next : α → Exec β} (keeps : ∀ a, (next a).KeepsTrace) :
    ChecksFirst (op >>= next) runner source target fsType options := by
  constructor
  · intro e refused
    exact Exec.after_bind_of_error runner [] next (checks.refuses e refused)
  · intro accepted
    have runs : RunsCommand op runner := checks.runs accepted
    exact runs.bind keeps

variable (runner : Runner) (source target fsType : String) (options : List String)

theorem checksFirst_mountOnce :
    ChecksFirst (mountOnce source target fsType options) runner source target fsType options :=
  checksFirst_check fun _ =>
    (runsCommand_runChecked runner _ _).bind fun _ => Exec.keepsTrace_check (.ok ())

theorem keepsTrace_mountOnce : (mountOnce source target fsType options).KeepsTrace :=
  (Exec.keepsTrace_check _).bind fun _ =>
    (Exec.keepsTrace_runChecked _ _).bind fun _ => Exec.keepsTrace_check (.ok ())

/-- A bind mount checks both paths in its first step. -/
theorem checksFirst_bindMount :
    ChecksFirst (bindMount source target options) runner source target "" ["bind"] :=
  (checksFirst_mountOnce runner source target "" ["bind"]).bind fun _ =>
    keepsTrace_mountOnce source target "" (remountOptions options)

theorem keepsTrace_mount : (mount source target fsType options).KeepsTrace := by
  unfold mount
  split
  · exact (keepsTrace_mountOnce source target "" ["bind"]).bind fun _ =>
      keepsTrace_mountOnce source target "" (remountOptions options)
  · exact keepsTrace_mountOnce source target fsType options

theorem checksFirst_format (noDiscard : Bool) :
    ChecksFirst (format noDiscard source target fsType options) runner source target fsType
      options :=
  checksFirst_check fun _ =>
    (runsCommand_runChecked runner _ _).bind fun _ => Exec.keepsTrace_check (.ok ())

theorem keepsTrace_diskFormat (disk : String) : (diskFormat disk).KeepsTrace :=
  (Exec.keepsTrace_check _).bind fun _ =>
    (Exec.keepsTrace_runChecked _ _).bind fun output =>
      Exec.keepsTrace_check (.ok (diskFormatOf output.stdoutText))

theorem Preparation.keepsTrace_recovery (p : Preparation) (mountError : StorageError) :
    (p.recovery mountError).KeepsTrace := by
  refine (keepsTrace_diskFormat p.source).bind fun existing => ?_
  split
  · exact (Exec.keepsTrace_run _ _).bind fun _ => keepsTrace_mount _ _ _ _
  · split
    · exact Exec.keepsTrace_check (.error mountError)
    · exact Exec.keepsTrace_check (.error (.formatMismatch p.fsType existing mountError))

theorem runsCommand_mount (accepted : AcceptedMount source target fsType options) :
    RunsCommand (mount source target fsType options) runner := by
  unfold mount
  split
  · have bind := (acceptedMount_bind_iff source target).2
      ⟨accepted.sourceNotRoot, accepted.targetNotRoot⟩
    exact (checksFirst_bindMount runner source target options).runs bind
  · exact (checksFirst_mountOnce runner source target fsType options).runs accepted

/-- A preparation checks its arguments before its mounts, which always run a command. -/
theorem checksFirst_formatAndMount (noDiscard : Bool) :
    ChecksFirst (formatAndMount noDiscard source target fsType options) runner source target fsType
      options := by
  let p : Preparation := ⟨noDiscard, source, target, fsType, options⟩
  refine checksFirst_check fun accepted => ?_
  have mounts : RunsCommand (Exec.attempt (mount source target fsType p.mountOptions)) runner := by
    unfold RunsCommand
    rw [Exec.after_attempt]
    exact runsCommand_mount runner source target fsType p.mountOptions
      (p.accepted_mounts accepted (Or.inl rfl))
  refine mounts.bind fun answer => ?_
  cases answer with
  | ok _ => exact Exec.keepsTrace_check (.ok ())
  | error mountError => exact p.keepsTrace_recovery mountError

theorem refusesPath_mount_iff :
    RefusesPath (mount source target fsType options) runner ↔ source = "/" ∨ target = "/" := by
  unfold mount
  split
  · exact (checksFirst_bindMount runner source target options).refusesPath_iff
  · exact (checksFirst_mountOnce runner source target fsType options).refusesPath_iff

/-! ## Other spellings of the root -/

theorem onlyMounts_runAll {trace : Trace} (mounts : OnlyMounts trace)
    (vectors : List (List String)) :
    OnlyMounts (Exec.runAll runner trace (vectors.map mountCommand)).2 := by
  induction vectors generalizing trace with
  | nil => exact mounts
  | cons now later ih =>
    have more := OnlyMounts.concat mounts (e := .of runner trace (mountCommand now)) rfl
    rw [List.map_cons, Exec.runAll]
    split
    · exact ih more
    · exact more

variable {source target fsType options}

/-- A preparation of a source that is the root in another spelling ends with its first mounts: they
succeed, or the path is refused where the type would be asked for. -/
theorem formatAndMount_of_rootSpelling (noDiscard : Bool) (spelling : IsRootSpelling source)
    (accepted : AcceptedMount source target fsType options) :
    let performed := (formatAndMount noDiscard source target fsType options).perform runner
    OnlyMounts performed.2 ∧ ∀ e, performed.1 = .error e → e = .invalidPath "/" := by
  let p : Preparation := ⟨noDiscard, source, target, fsType, options⟩
  have checked := after_check_of_accepted runner accepted
  change let performed :=
      (formatAndMount p.noDiscard p.source p.target p.fsType p.options).perform runner
    OnlyMounts performed.2 ∧ ∀ e, performed.1 = .error e → e = .invalidPath "/"
  rw [p.formatAndMount_eq, Exec.perform_eq, Exec.after_bind_of_ok runner [] _ checked]
  have nothing : OnlyMounts [] := fun _ listed => absurd listed List.not_mem_nil
  have mounts := onlyMounts_runAll runner nothing (p.mountsAs fsType)
  have phase := after_mount runner [] (p.accepted_mounts accepted (Or.inl rfl))
  rcases mounted : (mount p.source p.target p.fsType p.mountOptions).after runner []
    with ⟨answer, middle⟩
  have attempted : (Exec.attempt (mount p.source p.target p.fsType p.mountOptions)).after
      runner [] = (.ok answer, middle) := by
    rw [Exec.after_attempt, mounted]
  rw [Exec.after_bind_of_ok runner [] _ attempted]
  have onlyMounts : OnlyMounts middle := by
    rw [mounted] at phase
    change OnlyMounts (answer, middle).2
    rw [phase]
    exact mounts
  cases answer with
  | ok _ => exact ⟨onlyMounts, nofun⟩
  | error mountError =>
    have recovery : (p.recovery mountError).after runner middle =
        (.error (.invalidPath "/"), middle) := by
      apply Exec.after_bind_of_error
      rw [Preparation.after_diskFormat, cleanedPath_of_rootSpelling spelling]
    change OnlyMounts ((p.recovery mountError).after runner middle).2 ∧
      ∀ e, ((p.recovery mountError).after runner middle).1 = .error e → e = .invalidPath "/"
    rw [recovery]
    refine ⟨onlyMounts, fun e failed => ?_⟩
    cases failed
    rfl

/-- The root directory is refused before any command exactly where it is written as `/`. Any other
spelling of it passes, and a preparation that was given one as its source reports it as an invalid
path once its mounts have failed, without looking at the disk. -/
theorem refusesPath_iff_written (noDiscard : Bool) (source target fsType : String)
    (options : List String) (runner : Runner) :
    (RefusesPath (mount source target fsType options) runner ↔ source = "/" ∨ target = "/") ∧
    (RefusesPath (bindMount source target options) runner ↔ source = "/" ∨ target = "/") ∧
    (RefusesPath (formatAndMount noDiscard source target fsType options) runner ↔
      source = "/" ∨ target = "/") ∧
    (RefusesPath (format noDiscard source target fsType options) runner ↔
      source = "/" ∨ target = "/") ∧
    (IsRootSpelling source → AcceptedMount source target fsType options →
      let performed := (formatAndMount noDiscard source target fsType options).perform runner
      OnlyMounts performed.2 ∧ ∀ e, performed.1 = .error e → e = .invalidPath "/") :=
  ⟨refusesPath_mount_iff runner source target fsType options,
    (checksFirst_bindMount runner source target options).refusesPath_iff,
    (checksFirst_formatAndMount runner source target fsType options noDiscard).refusesPath_iff,
    (checksFirst_format runner source target fsType options noDiscard).refusesPath_iff,
    formatAndMount_of_rootSpelling runner noDiscard⟩

/-- With the separator doubled, the root directory is mounted, bound and formatted. -/
theorem doubled_separator_passes :
    IsRootSpelling "//" ∧
    ¬ RefusesPath (mount "//" "/mnt/x" "ext4" []) (Script.runner {}) ∧
    ¬ RefusesPath (bindMount "//" "/mnt/x" []) (Script.runner {}) ∧
    ¬ RefusesPath (formatAndMount false "//" "/mnt/x" "ext4" []) (Script.runner {}) ∧
    ¬ RefusesPath (format false "//" "/mnt/x" "ext4" []) (Script.runner {}) ∧
    ((format false "//" "/mnt/x" "ext4" []).perform (Script.runner {})).2.map (·.invocation) =
      [⟨"mkfs.ext4", ["-F", "//"]⟩] := by
  have other : ¬ ("//" = "/" ∨ "/mnt/x" = "/") := by decide
  refine ⟨(Path.cleaned_eq_root_iff "//").1 (by decide), ?_, ?_, ?_, ?_, by decide +kernel⟩
  · rw [refusesPath_mount_iff]
    exact other
  · rw [(checksFirst_bindMount _ "//" "/mnt/x" []).refusesPath_iff]
    exact other
  · rw [(checksFirst_formatAndMount _ "//" "/mnt/x" "ext4" [] false).refusesPath_iff]
    exact other
  · rw [(checksFirst_format _ "//" "/mnt/x" "ext4" [] false).refusesPath_iff]
    exact other

end HostStorage
