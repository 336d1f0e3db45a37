import HostStorage.Command.Script
import HostStorage.Proofs.Mount.Phase

/-!
# Refused mounts

A mount in one step refuses its arguments before it runs a command. A bind mount does not: the
options of its second step are checked after the first step, so a refused option can leave the
directory bound without any of the options asked for. `refusesUntouched_iff` says exactly when.
-/
namespace HostStorage

/-- An operation that refuses an argument has run no command. -/
def RefusesUntouched {α : Type} (op : Exec α) (runner : Runner) : Prop :=
  ∀ e, (op.perform runner).1 = .error e → e.isRefusal = true → (op.perform runner).2 = []

/-- A directory is bound to another place before an option of the mount is refused. -/
structure LeftHalfBound (runner : Runner) (source target : String) (options : List String) :
    Prop where
  sourceNotRoot : source ≠ "/"
  targetNotRoot : target ≠ "/"
  bound : (CommandEvent.of runner [] (bindCommand source target)).failed = false
  refused : ∃ option ∈ options, isMountOption option = false

variable (runner : Runner)

theorem mountOnce_refusesUntouched (source target fsType : String) (options : List String) :
    RefusesUntouched (mountOnce source target fsType options) runner := by
  intro e failed refusal
  rw [Exec.perform_eq, after_mountOnce] at failed ⊢
  cases checked : checkMountArguments source target fsType options with
  | error refused => rfl
  | ok _ =>
    rw [checked] at failed
    have notRefusal := not_isRefusal_of_runAll failed
    rw [refusal] at notRefusal
    cases notRefusal

/-- The root directory is refused before it is bound or bound to. -/
theorem bindMount_root {source target : String} (root : ¬ (source ≠ "/" ∧ target ≠ "/"))
    (options : List String) : ((bindMount source target options).perform runner).2 = [] := by
  rw [Exec.perform_eq, bindMount, Exec.after_bind, after_mountOnce]
  cases checked : checkMountArguments source target "" ["bind"] with
  | error e => rfl
  | ok _ =>
    have accepted := (checkMountArguments_eq_ok_iff source target "" ["bind"]).1 checked
    exact absurd ((acceptedMount_bind_iff source target).1 accepted) root

/-- The only command of a directory that is left half bound is the one that bound it, and the first
option that is none is to blame. -/
theorem bindMount_of_leftHalfBound {source target : String} {options : List String}
    (half : LeftHalfBound runner source target options) :
    ∃ option ∈ options, (bindMount source target options).perform runner =
      (.error (.invalidMountOption option), [.of runner [] (bindCommand source target)]) := by
  obtain ⟨option, found⟩ : ∃ option, options.find? (!isMountOption ·) = some option := by
    obtain ⟨wrong, listed, notOption⟩ := half.refused
    exact Option.isSome_iff_exists.1 (List.find?_isSome.2 ⟨wrong, listed, by simp [notOption]⟩)
  have refused : checkMountArguments source target "" (remountOptions options) =
      .error (.invalidMountOption option) := by
    rw [checkMountArguments_untyped half.sourceNotRoot half.targetNotRoot,
      checkMountOptions_remountOptions, checkMountOptions, found]
  refine ⟨option, List.mem_of_find?_eq_some found, ?_⟩
  rw [Exec.perform_eq, after_bindMount runner [] ⟨half.sourceNotRoot, half.targetNotRoot⟩]
  rw [Exec.runAll_of_not_failed runner [] [] half.bound]
  simp only [Exec.runAll_nil, after_mountOnce, refused, List.nil_append]

/-- A bind mount that is not left half bound refuses untouched: the root directory is refused before
the first step, and later failures are those of commands. -/
theorem bindMount_refusesUntouched {source target : String} {options : List String}
    (whole : ¬ LeftHalfBound runner source target options) :
    RefusesUntouched (bindMount source target options) runner := by
  intro e failed refusal
  by_cases notRoot : source ≠ "/" ∧ target ≠ "/"
  · exfalso
    rw [Exec.perform_eq, after_bindMount runner [] notRoot] at failed
    cases bound : (CommandEvent.of runner [] (bindCommand source target)).failed with
    | true =>
      obtain ⟨cause, stopped⟩ := Exec.runAll_of_failed runner [] [] bound
      have notRefusal : cause.isRefusal = false :=
        not_isRefusal_of_runAll (by rw [stopped])
      rw [stopped] at failed
      cases failed
      rw [refusal] at notRefusal
      cases notRefusal
    | false =>
      rw [Exec.runAll_of_not_failed runner [] [] bound] at failed
      have valid : ∀ option ∈ options, isMountOption option = true := by
        intro option listed
        cases checked : isMountOption option with
        | true => rfl
        | false => exact absurd ⟨notRoot.1, notRoot.2, bound, option, listed, checked⟩ whole
      have accepted : checkMountArguments source target "" (remountOptions options) = .ok () := by
        rw [checkMountArguments_untyped notRoot.1 notRoot.2, checkMountOptions_remountOptions]
        exact (checkMountOptions_eq_ok_iff options).2 valid
      simp only [Exec.runAll_nil, after_mountOnce, accepted] at failed
      have notRefusal := not_isRefusal_of_runAll failed
      rw [refusal] at notRefusal
      cases notRefusal
  · exact bindMount_root runner notRoot options

/-- A mount, and a bind mount asked for directly, refuse their arguments before any command runs
except when they leave the directory half bound. -/
theorem refusesUntouched_iff (source target fsType : String) (options : List String) :
    (RefusesUntouched (mount source target fsType options) runner ↔
      ¬ ("bind" ∈ options ∧ LeftHalfBound runner source target options)) ∧
    (RefusesUntouched (bindMount source target options) runner ↔
      ¬ LeftHalfBound runner source target options) := by
  have direct : RefusesUntouched (bindMount source target options) runner ↔
      ¬ LeftHalfBound runner source target options := by
    refine ⟨fun untouched half => ?_, bindMount_refusesUntouched runner⟩
    obtain ⟨option, _, performed⟩ := bindMount_of_leftHalfBound runner half
    have commands := untouched (.invalidMountOption option) (by rw [performed]) rfl
    rw [performed] at commands
    cases commands
  refine ⟨?_, direct⟩
  unfold mount
  by_cases asked : "bind" ∈ options
  · rw [if_pos (by simpa [asksBind] using asked), direct]
    simp [asked]
  · rw [if_neg (by simpa [asksBind] using asked)]
    exact ⟨fun _ half => asked half.1, fun _ => mountOnce_refusesUntouched runner _ _ _ _⟩

/-- An option that is none is refused after the directory was bound, when all commands succeed. -/
theorem bound_before_refusal :
    ¬ RefusesUntouched (mount "/dev/sdc" "/mnt/data" "xfs" ["bind", "=="]) (Script.runner {}) ∧
      ((mount "/dev/sdc" "/mnt/data" "xfs" ["bind", "=="]).perform (Script.runner {})).2.map
        (·.invocation) = [⟨"mount", ["-o", "bind", "/dev/sdc", "/mnt/data"]⟩] := by
  have half : LeftHalfBound (Script.runner {}) "/dev/sdc" "/mnt/data" ["bind", "=="] :=
    ⟨by decide, by decide, rfl, "==", by decide, by decide +kernel⟩
  have asked : mount "/dev/sdc" "/mnt/data" "xfs" ["bind", "=="] =
      bindMount "/dev/sdc" "/mnt/data" ["bind", "=="] := rfl
  have ran : bindCommand "/dev/sdc" "/mnt/data" =
      ⟨"mount", ["-o", "bind", "/dev/sdc", "/mnt/data"]⟩ := by decide
  obtain ⟨option, _, performed⟩ := bindMount_of_leftHalfBound (Script.runner {}) half
  rw [asked, performed]
  refine ⟨fun untouched => ?_, by simp [ran]⟩
  have commands := untouched (.invalidMountOption option) (by rw [performed]) rfl
  rw [performed] at commands
  cases commands

end HostStorage
