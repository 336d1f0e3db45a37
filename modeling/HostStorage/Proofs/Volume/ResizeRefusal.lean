import HostStorage.Command.Script
import HostStorage.Proofs.Volume.Resizing

/-!
# Refused resizes

A resize checks a path only where its tool is to run, and the type only once no tool is left to run.
So the partition table of a pseudo device can be read again before the path of the second tool or
the type is refused. `resizeFs_refusesUntouched_iff` says exactly when.
-/
namespace HostStorage

open HostStorage.Path (IsRootSpelling)

def StorageError.refusesResize : StorageError → Bool
  | .invalidPath _ | .unsupportedResize _ => true
  | _ => false

/-- A resize that is refused has run no command. -/
def RefusesResizeUntouched (op : Exec Unit) (runner : Runner) : Prop :=
  ∀ e, (op.perform runner).1 = .error e → e.refusesResize = true → (op.perform runner).2 = []

/-- The partition table of a pseudo device is read again before it shows that the volume cannot be
grown: its type is not supported, or the path to grow it through leads to the root directory. -/
structure Resize.RereadInVain (r : Resize) (runner : Runner) : Prop where
  pseudo : r.pseudoDevice ≠ ""
  notRoot : ¬ IsRootSpelling r.reread.path
  reread : (CommandEvent.of runner [] r.reread.command).failed = false
  refused : r.fsType ∉ growableTypes ∨ IsRootSpelling r.grownPath

/-- A command that fails refuses nothing. -/
theorem succeeded_ne_of_refusesResize {e : StorageError} (refuses : e.refusesResize = true)
    (program : String) (arguments : List String) (outcome : Outcome) :
    Exec.succeeded program arguments outcome ≠ .error e := by
  intro failure
  obtain ⟨reason, output, rfl⟩ := Exec.commandFailed_of_succeeded failure
  cases refuses

namespace Resize

variable {r : Resize} {runner : Runner}

/-- The table is the only thing that was touched. -/
theorem perform_of_rereadInVain (vain : r.RereadInVain runner) :
    (resizeFs r.mountPoint r.device r.pseudoDevice r.map r.fsType).perform runner =
      (.error (if r.fsType ∈ growableTypes then .invalidPath "/" else .unsupportedResize r.fsType),
        [.of runner [] r.reread.command]) := by
  have tasks : r.tasks = r.reread :: r.growths := by
    rw [Resize.tasks, r.rereads_of_pseudo vain.pseudo, List.singleton_append]
  by_cases growable : r.fsType ∈ growableTypes
  · obtain ⟨program, flags, growths⟩ := r.growths_of_growable growable
    have root : IsRootSpelling r.grownPath := vain.refused.resolve_left (not_not_intro growable)
    have run : TaskRun runner [] r.tasks (.error (.invalidPath "/"))
        [.of runner [] r.reread.command] := by
      rw [tasks, growths]
      exact .succeeded vain.notRoot vain.reread (.refused [] _ root)
    rw [r.perform_of_taskRun run, if_pos growable]
    rfl
  · have run : TaskRun runner [] r.tasks (.ok ()) [.of runner [] r.reread.command] := by
      rw [tasks, r.growths_of_not_growable growable]
      exact .succeeded vain.notRoot vain.reread (.done _)
    rw [r.perform_of_taskRun run, if_neg growable, verdict, if_neg growable]
    rfl

theorem commands_of_rereadInVain (vain : r.RereadInVain runner) :
    ((resizeFs r.mountPoint r.device r.pseudoDevice r.map r.fsType).perform runner).2.map
      (·.invocation) = [r.reread.command] := by
  rw [perform_of_rereadInVain vain]
  rfl

theorem not_untouched_of_rereadInVain (vain : r.RereadInVain runner) :
    ¬ RefusesResizeUntouched (resizeFs r.mountPoint r.device r.pseudoDevice r.map r.fsType)
      runner := by
  intro untouched
  have performed := perform_of_rereadInVain vain
  have refuses : StorageError.refusesResize
      (if r.fsType ∈ growableTypes then .invalidPath "/" else .unsupportedResize r.fsType) =
        true := by
    split <;> rfl
  have nothing := untouched _ (congrArg Prod.fst performed) refuses
  rw [performed] at nothing
  cases nothing

/-- A growing that is refused has run nothing itself. -/
theorem refused_growth {trace final : Trace} {result : Except StorageError Unit} {e : StorageError}
    (run : TaskRun runner trace r.growths result final)
    (failed : (do result; r.verdict) = .error e) (refuses : e.refusesResize = true) :
    final = trace ∧ (r.fsType ∉ growableTypes ∨ IsRootSpelling r.grownPath) := by
  by_cases growable : r.fsType ∈ growableTypes
  · obtain ⟨program, flags, growths⟩ := r.growths_of_growable growable
    rw [growths] at run
    cases run with
    | refused _ _ root => exact ⟨rfl, Or.inr root⟩
    | failed _ _ failure =>
      cases failed
      exact absurd failure (succeeded_ne_of_refusesResize refuses _ _ _)
    | succeeded _ _ later =>
      -- then all has succeeded, and the type can be grown
      cases later
      rw [bind_eq_error_iff, r.verdict_eq_ok_iff.2 growable] at failed
      simp at failed
  · rw [r.growths_of_not_growable growable] at run
    cases run
    exact ⟨rfl, Or.inl growable⟩

/-- Any other resize refuses before it runs its first tool. -/
theorem untouched_of_not_rereadInVain (sound : ¬ r.RereadInVain runner) :
    RefusesResizeUntouched (resizeFs r.mountPoint r.device r.pseudoDevice r.map r.fsType)
      runner := by
  intro e failed refuses
  obtain ⟨result, final, run, performed⟩ := r.exists_run runner
  rw [performed] at failed ⊢
  by_cases noPseudo : r.pseudoDevice = ""
  · rw [tasks, r.rereads_of_noPseudo noPseudo, List.nil_append] at run
    exact (refused_growth run failed refuses).1
  · rw [tasks, r.rereads_of_pseudo noPseudo, List.singleton_append] at run
    cases run with
    | refused => rfl
    | failed _ _ failure =>
      cases failed
      exact absurd failure (succeeded_ne_of_refusesResize refuses _ _ _)
    | succeeded notRoot success later =>
      have refused := (refused_growth later failed refuses).2
      exact absurd ⟨noPseudo, notRoot, success, refused⟩ sound

end Resize

/-- A resize that is refused has run no command, except when it has read a partition table again in
vain. -/
theorem resizeFs_refusesUntouched_iff (mountPoint device pseudoDevice map fsType : String)
    (runner : Runner) :
    RefusesResizeUntouched (resizeFs mountPoint device pseudoDevice map fsType) runner ↔
      ¬ Resize.RereadInVain ⟨mountPoint, device, pseudoDevice, map, fsType⟩ runner := by
  constructor
  · intro untouched vain
    exact Resize.not_untouched_of_rereadInVain vain untouched
  · exact Resize.untouched_of_not_rereadInVain

/-- When all commands succeed, the partition table of `emcpowerc` is read again before the root
directory is refused as the mount point of an xfs volume, and before btrfs is refused. -/
theorem reread_before_refusal :
    ¬ RefusesResizeUntouched (resizeFs "/" "/dev/sdb" "emcpowerc" "" "xfs") (Script.runner {}) ∧
    ¬ RefusesResizeUntouched (resizeFs "/mnt/vol" "/dev/sdb" "emcpowerc" "" "btrfs")
      (Script.runner {}) ∧
    ((resizeFs "/" "/dev/sdb" "emcpowerc" "" "xfs").perform (Script.runner {})).2.map
      (·.invocation) = [⟨"blockdev", ["--rereadpt", "/dev/emcpowerc"]⟩] ∧
    ((resizeFs "/mnt/vol" "/dev/sdb" "emcpowerc" "" "btrfs").perform (Script.runner {})).2.map
      (·.invocation) = [⟨"blockdev", ["--rereadpt", "/dev/emcpowerc"]⟩] := by
  let ofRoot : Resize := ⟨"/", "/dev/sdb", "emcpowerc", "", "xfs"⟩
  let ofBtrfs : Resize := ⟨"/mnt/vol", "/dev/sdb", "emcpowerc", "", "btrfs"⟩
  have notRoot : ¬ IsRootSpelling "/dev/emcpowerc" := by
    rw [← Path.cleaned_eq_root_iff]
    decide +kernel
  have root : IsRootSpelling ofRoot.grownPath := by
    rw [← Path.cleaned_eq_root_iff]
    decide +kernel
  have rootVain : ofRoot.RereadInVain (Script.runner {}) :=
    ⟨by decide, notRoot, rfl, Or.inr root⟩
  have btrfsVain : ofBtrfs.RereadInVain (Script.runner {}) :=
    ⟨by decide, notRoot, rfl, Or.inl (by decide)⟩
  have command : (⟨"blockdev", ["--rereadpt"], "/dev/emcpowerc"⟩ : PathTask).command =
      ⟨"blockdev", ["--rereadpt", "/dev/emcpowerc"]⟩ := by decide +kernel
  refine ⟨Resize.not_untouched_of_rereadInVain rootVain,
    Resize.not_untouched_of_rereadInVain btrfsVain, ?_, ?_⟩
  · exact (Resize.commands_of_rereadInVain rootVain).trans (congrArg ([·]) command)
  · exact (Resize.commands_of_rereadInVain btrfsVain).trans (congrArg ([·]) command)

end HostStorage
