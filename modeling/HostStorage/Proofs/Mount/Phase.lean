import HostStorage.Mount.Mounting
import HostStorage.Proofs.Command.Execution
import HostStorage.Proofs.Result

/-!
# What mounting runs

Accepted arguments are described without the checks. A mount whose arguments are accepted is a fixed
list of `mount` commands that run in turn until one fails: two for a bind mount, one for any other.
-/
namespace HostStorage

/-- Arguments of a mount that are not refused: no path is the root directory, the type is absent or
supported, and every option is blank or has a word character. -/
structure AcceptedMount (source target fsType : String) (options : List String) : Prop where
  sourceNotRoot : source ≠ "/"
  targetNotRoot : target ≠ "/"
  typeSupported : fsType = "" ∨ fsType ∈ supportedFsTypes
  optionsValid : ∀ option ∈ options, isMountOption option = true

def StorageError.isRefusal : StorageError → Bool
  | .invalidPath _ | .invalidFsType _ | .invalidMountOption _ => true
  | _ => false

theorem checkPath_eq_ok_iff (path : String) : checkPath path = .ok () ↔ path ≠ "/" := by
  simp [checkPath]

theorem checkMountOptions_eq_ok_iff (options : List String) :
    checkMountOptions options = .ok () ↔ ∀ option ∈ options, isMountOption option = true := by
  unfold checkMountOptions
  cases found : options.find? (!isMountOption ·) with
  | none => simpa using found
  | some option =>
    have refused := List.find?_some found
    have listed := List.mem_of_find?_eq_some found
    simp only [reduceCtorEq, false_iff]
    intro accepted
    simp [accepted option listed] at refused

/-- The checks pass exactly for accepted arguments. -/
theorem checkMountArguments_eq_ok_iff (source target fsType : String) (options : List String) :
    checkMountArguments source target fsType options = .ok () ↔
      AcceptedMount source target fsType options := by
  -- the type is checked only if there is one, which leaves the options in two branches
  have typed : (if !fsType.isEmpty then do checkFsType fsType; checkMountOptions options
      else checkMountOptions options) = .ok () ↔
      (fsType = "" ∨ fsType ∈ supportedFsTypes) ∧
        ∀ option ∈ options, isMountOption option = true := by
    by_cases absent : fsType = ""
    · simp [absent, checkMountOptions_eq_ok_iff]
    · simp [absent, bind_eq_ok_iff, checkFsType, checkMountOptions_eq_ok_iff]
  constructor
  · intro passed
    simp only [checkMountArguments, bind_eq_ok_iff] at passed
    obtain ⟨_, sourcePassed, _, targetPassed, rest⟩ := passed
    obtain ⟨type, all⟩ := typed.1 rest
    exact ⟨(checkPath_eq_ok_iff source).1 sourcePassed, (checkPath_eq_ok_iff target).1 targetPassed,
      type, all⟩
  · intro accepted
    simp only [checkMountArguments, bind_eq_ok_iff]
    exact ⟨(), (checkPath_eq_ok_iff source).2 accepted.sourceNotRoot, (),
      (checkPath_eq_ok_iff target).2 accepted.targetNotRoot,
      typed.2 ⟨accepted.typeSupported, accepted.optionsValid⟩⟩

/-- Without a type and with other places than the root directory, only the options are left to
check. -/
theorem checkMountArguments_untyped {source target : String} (sourceNotRoot : source ≠ "/")
    (targetNotRoot : target ≠ "/") (options : List String) :
    checkMountArguments source target "" options = checkMountOptions options := by
  simp only [checkMountArguments, (checkPath_eq_ok_iff source).2 sourceNotRoot,
    (checkPath_eq_ok_iff target).2 targetNotRoot]
  rfl

/-- A command that fails refuses no argument. -/
theorem not_isRefusal_of_succeeded {program : String} {arguments : List String} {outcome : Outcome}
    {e : StorageError} (failed : Exec.succeeded program arguments outcome = .error e) :
    e.isRefusal = false := by
  obtain ⟨reason, output, rfl⟩ := Exec.commandFailed_of_succeeded failed
  rfl

theorem not_isRefusal_of_runAll {runner : Runner} {trace : Trace} {commands : List Invocation}
    {e : StorageError} (failed : (Exec.runAll runner trace commands).1 = .error e) :
    e.isRefusal = false := by
  induction commands generalizing trace with
  | nil => cases failed
  | cons i rest ih =>
    simp only [Exec.runAll] at failed
    split at failed
    next => exact ih failed
    next failure =>
      cases failed
      exact not_isRefusal_of_succeeded failure

def mountCommand (arguments : List String) : Invocation := ⟨"mount", arguments⟩

@[simp] theorem mountCommand_program (arguments : List String) :
    (mountCommand arguments).program = "mount" := rfl

@[simp] theorem mountCommand_arguments (arguments : List String) :
    (mountCommand arguments).arguments = arguments := rfl

def bindCommand (source target : String) : Invocation :=
  mountCommand (mountArguments source target "" ["bind"])

/-- The arguments of the commands that mount a source, in turn. -/
def mountVectors (source target fsType : String) (options : List String) : List (List String) :=
  if asksBind options then
    [mountArguments source target "" ["bind"],
      mountArguments source target "" (remountOptions options)]
  else [mountArguments source target fsType options]

/-- The options that a bind mount is made with are accepted. -/
theorem acceptedMount_bind_iff (source target : String) :
    AcceptedMount source target "" ["bind"] ↔ source ≠ "/" ∧ target ≠ "/" := by
  constructor
  · intro accepted
    exact ⟨accepted.sourceNotRoot, accepted.targetNotRoot⟩
  · rintro ⟨source, target⟩
    refine ⟨source, target, Or.inl rfl, ?_⟩
    intro option listed
    rw [List.mem_singleton.1 listed]
    decide

/-- The options after a bind mount are refused as those asked for are: only `bind` and `remount` are
left out or added, which are never refused. -/
theorem checkMountOptions_remountOptions (options : List String) :
    checkMountOptions (remountOptions options) = checkMountOptions options := by
  have bind : isMountOption "bind" = true := by decide
  have remount : isMountOption "remount" = true := by decide
  have kept : ∀ option, decide ((option != "bind" && option != "remount") = true ∧
      (!isMountOption option) = true) = !isMountOption option := by
    intro option
    by_cases isBind : option = "bind"
    · simp [isBind, bind]
    · by_cases isRemount : option = "remount"
      · simp [isRemount, remount]
      · simp [isBind, isRemount]
  simp only [checkMountOptions, remountOptions, List.find?_cons, remount, Bool.not_true,
    List.find?_filter, kept]

variable (runner : Runner) (trace : Trace)

/-- A mount in one step runs its command unless its arguments are refused. -/
theorem after_mountOnce (source target fsType : String) (options : List String) :
    (mountOnce source target fsType options).after runner trace =
      match checkMountArguments source target fsType options with
      | .ok () =>
        Exec.runAll runner trace [mountCommand (mountArguments source target fsType options)]
      | .error e => (.error e, trace) := by
  rw [mountOnce, Exec.after_bind, Exec.after_check]
  cases checkMountArguments source target fsType options with
  | error e => rfl
  | ok _ =>
    simp only [Exec.after_bind, Exec.after_runChecked, Exec.runAll, mountCommand]
    cases Exec.succeeded "mount" (mountArguments source target fsType options)
      (runner trace ⟨"mount", mountArguments source target fsType options⟩) <;> rfl

theorem after_mountOnce_of_accepted {source target fsType : String} {options : List String}
    (accepted : AcceptedMount source target fsType options) :
    (mountOnce source target fsType options).after runner trace =
      Exec.runAll runner trace [mountCommand (mountArguments source target fsType options)] := by
  rw [after_mountOnce, (checkMountArguments_eq_ok_iff source target fsType options).2 accepted]

/-- A bind mount of other places than the root directory runs its first command, and then mounts
with the remaining options if that succeeds. -/
theorem after_bindMount {source target : String} (notRoot : source ≠ "/" ∧ target ≠ "/")
    (options : List String) :
    (bindMount source target options).after runner trace =
      match Exec.runAll runner trace [bindCommand source target] with
      | (.ok _, bound) =>
        (mountOnce source target "" (remountOptions options)).after runner bound
      | (.error e, failed) => (.error e, failed) := by
  rw [bindMount, Exec.after_bind, bindCommand,
    after_mountOnce_of_accepted runner trace ((acceptedMount_bind_iff source target).2 notRoot)]
  rcases Exec.runAll runner trace [mountCommand (mountArguments source target "" ["bind"])] with
    ⟨result, bound⟩
  cases result <;> rfl

theorem after_bindMount_of_accepted {source target : String} {options : List String}
    (accepted : AcceptedMount source target "" options) :
    (bindMount source target options).after runner trace = Exec.runAll runner trace
      [bindCommand source target,
        mountCommand (mountArguments source target "" (remountOptions options))] := by
  have valid := (checkMountOptions_eq_ok_iff options).2 accepted.optionsValid
  rw [← checkMountOptions_remountOptions] at valid
  have remount : AcceptedMount source target "" (remountOptions options) :=
    ⟨accepted.sourceNotRoot, accepted.targetNotRoot, Or.inl rfl,
      (checkMountOptions_eq_ok_iff _).1 valid⟩
  rw [after_bindMount runner trace ⟨accepted.sourceNotRoot, accepted.targetNotRoot⟩]
  simp only [after_mountOnce_of_accepted runner _ remount]
  exact (Exec.runAll_cons runner trace _ _).symm

/-- A mount with accepted arguments runs its commands in turn until one fails. -/
theorem after_mount {source target fsType : String} {options : List String}
    (accepted : AcceptedMount source target fsType options) :
    (mount source target fsType options).after runner trace =
      Exec.runAll runner trace ((mountVectors source target fsType options).map mountCommand) := by
  unfold mount mountVectors
  split
  next =>
    exact after_bindMount_of_accepted runner trace ⟨accepted.sourceNotRoot,
      accepted.targetNotRoot, Or.inl rfl, accepted.optionsValid⟩
  next => exact after_mountOnce_of_accepted runner trace accepted

end HostStorage
