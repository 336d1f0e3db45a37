import HostStorage.Command.Script
import HostStorage.Proofs.Mount.Phase

/-!
# Mounts that bind

Whether a mount binds is asked twice: the route is chosen by the options as they are written, the
arguments are built from the trimmed ones. The answers differ for `bind` with blanks around it, and
only then is a directory bound by a single command with all options at once, of which the kernel
ignores the others (`bindsAtOnce_iff`). Where the two steps are taken, no option is lost.
-/
namespace HostStorage

/-! ## Options as they are passed -/

theorem mem_addOption_iff (passed : List String) (option x : String) :
    x ∈ addOption passed option ↔ x ∈ passed ∨ (x ≠ "" ∧ Text.trimmed option = x) := by
  dsimp only [addOption]
  split
  next dropped =>
    refine ⟨Or.inl, ?_⟩
    rintro (listed | ⟨notEmpty, rfl⟩)
    · exact listed
    · simpa [notEmpty] using dropped
  next added =>
    rw [List.mem_append, List.mem_singleton, eq_comm]
    have notEmpty : Text.trimmed option ≠ "" := by
      rintro blank
      simp [blank] at added
    refine or_congr_right ⟨?_, And.right⟩
    rintro rfl
    exact ⟨notEmpty, rfl⟩

/-- An option is passed if it is not blank and some option is that one up to blanks around it. -/
theorem mem_distinctOptions_iff (options : List String) (x : String) :
    x ∈ distinctOptions options ↔ x ≠ "" ∧ ∃ option ∈ options, Text.trimmed option = x := by
  have run : ∀ passed, x ∈ options.foldl addOption passed ↔
      x ∈ passed ∨ (x ≠ "" ∧ ∃ option ∈ options, Text.trimmed option = x) := by
    induction options with
    | nil => simp
    | cons option rest ih =>
      intro passed
      rw [List.foldl_cons, ih, mem_addOption_iff, List.exists_mem_cons_iff, and_or_left, or_assoc]
  exact (run []).trans (by simp)

/-- What is passed apart from `bind` is passed by the remount as well. -/
theorem mem_distinctOptions_remountOptions {options : List String} {x : String}
    (passed : x ∈ distinctOptions options) (other : x ≠ "bind") :
    x ∈ distinctOptions (remountOptions options) := by
  obtain ⟨notEmpty, option, listed, rfl⟩ := (mem_distinctOptions_iff options x).1 passed
  refine (mem_distinctOptions_iff _ _).2 ⟨notEmpty, option, ?_, rfl⟩
  have notBind : option ≠ "bind" := by
    rintro rfl
    exact other (by decide)
  by_cases isRemount : option = "remount"
  · rw [isRemount]
    exact List.mem_cons_self
  · exact List.mem_cons_of_mem _ (List.mem_filter.2 ⟨listed, by simp [notBind, isRemount]⟩)

/-! ## Operations that run fixed commands -/

namespace Exec

/-- An operation that runs some commands in turn until one fails. -/
def Runs (op : Exec Unit) (commands : List Invocation) : Prop :=
  ∀ runner trace, op.after runner trace = runAll runner trace commands

/-- Every command succeeds silently. -/
def willing : Runner := fun _ _ => .ok .silent

theorem runAll_willing (trace : Trace) (commands : List Invocation) :
    runAll willing trace commands = (.ok (), trace ++ commands.map (⟨·, .ok .silent⟩)) := by
  induction commands generalizing trace with
  | nil => rw [runAll_nil, List.map_nil, List.append_nil]
  | cons i rest ih =>
    have success : (CommandEvent.of willing trace i).failed = false := rfl
    rw [runAll_of_not_failed willing trace rest success, ih, List.append_assoc]
    rfl

theorem Runs.after_willing {op : Exec Unit} {commands : List Invocation} (runs : op.Runs commands) :
    op.after willing [] = (.ok (), commands.map (⟨·, .ok .silent⟩)) := by
  rw [runs willing [], runAll_willing, List.nil_append]

/-- The commands that an operation runs are its only ones. -/
theorem Runs.unique {op : Exec Unit} {commands others : List Invocation} (runs : op.Runs commands)
    (alike : op.Runs others) : commands = others := by
  have traces := congrArg Prod.snd (runs.after_willing.symm.trans alike.after_willing)
  have invocations := congrArg (List.map CommandEvent.invocation) traces
  simpa [Function.comp_def] using invocations

end Exec

/-! ## Routes -/

section

variable {source target fsType : String} {options : List String} {runner : Runner}
  {trace final : Trace}

/-- The command that applies the options after a directory was bound. -/
def remountCommand (source target : String) (options : List String) : Invocation :=
  mountCommand (mountArguments source target "" (remountOptions options))

theorem accepted_of_mountOnce
    (succeeds : (mountOnce source target fsType options).after runner trace = (.ok (), final)) :
    AcceptedMount source target fsType options := by
  rw [after_mountOnce] at succeeds
  split at succeeds
  next passed => exact (checkMountArguments_eq_ok_iff source target fsType options).1 passed
  next => cases succeeds

/-- A bind mount that succeeds has been checked in both steps. -/
theorem accepted_of_bindMount
    (succeeds : (bindMount source target options).after runner trace = (.ok (), final)) :
    AcceptedMount source target "" options := by
  rw [bindMount, Exec.after_bind] at succeeds
  rcases bound : (mountOnce source target "" ["bind"]).after runner trace with ⟨result, later⟩
  rw [bound] at succeeds
  cases result with
  | error e => cases succeeds
  | ok _ =>
    have remounted := accepted_of_mountOnce succeeds
    have valid := (checkMountOptions_eq_ok_iff _).2 remounted.optionsValid
    rw [checkMountOptions_remountOptions] at valid
    exact ⟨remounted.sourceNotRoot, remounted.targetNotRoot, Or.inl rfl,
      (checkMountOptions_eq_ok_iff options).1 valid⟩

/-- A mount that is asked to bind, by an option written as `bind`, is a bind mount. -/
theorem mount_of_bind (asked : "bind" ∈ options) :
    mount source target fsType options = bindMount source target options := by
  rw [mount, if_pos (by simpa [asksBind] using asked)]

theorem mount_of_not_bind (unasked : "bind" ∉ options) :
    mount source target fsType options = mountOnce source target fsType options := by
  rw [mount, if_neg (by simpa [asksBind] using unasked)]

theorem runs_bindMount (accepted : AcceptedMount source target "" options) :
    (bindMount source target options).Runs
      [bindCommand source target, remountCommand source target options] :=
  fun runner trace => after_bindMount_of_accepted runner trace accepted

theorem runs_mountOnce (accepted : AcceptedMount source target fsType options) :
    (mountOnce source target fsType options).Runs
      [mountCommand (mountArguments source target fsType options)] :=
  fun runner trace => after_mountOnce_of_accepted runner trace accepted

end

/-- `bind` is passed by a mount that runs one command with all options. -/
def BindsAtOnce (source target fsType : String) (options : List String) : Prop :=
  "bind" ∈ distinctOptions options ∧ (mount source target fsType options).Runs
    [mountCommand (mountArguments source target fsType options)]

/-- A mount binds first and then applies the options. -/
def BindsInTwoSteps (source target fsType : String) (options : List String) : Prop :=
  (mount source target fsType options).Runs
    [bindCommand source target, remountCommand source target options]

/-- A mount passes `bind` along with all other options exactly if it is accepted and `bind` is
written with blanks around it in each place. It takes the two steps exactly if `bind` is written
plainly and none of its other arguments is refused, and then no option is lost. -/
theorem bindsAtOnce_iff (source target fsType : String) (options : List String) :
    (BindsAtOnce source target fsType options ↔ AcceptedMount source target fsType options ∧
      "bind" ∉ options ∧ ∃ option ∈ options, Text.trimmed option = "bind") ∧
    (BindsInTwoSteps source target fsType options ↔
      AcceptedMount source target "" options ∧ "bind" ∈ options) ∧
    ∀ option ∈ distinctOptions options, option ≠ "bind" →
      option ∈ distinctOptions (remountOptions options) := by
  have passed : "bind" ∈ distinctOptions options ↔
      ∃ option ∈ options, Text.trimmed option = "bind" := by
    rw [mem_distinctOptions_iff]
    exact and_iff_right (by decide)
  refine ⟨?_, ?_, fun _ => mem_distinctOptions_remountOptions⟩
  · rw [BindsAtOnce, passed]
    by_cases asked : "bind" ∈ options
    · rw [mount_of_bind asked]
      refine iff_of_false ?_ fun wanted => wanted.2.1 asked
      rintro ⟨_, runs⟩
      have both := runs_bindMount (accepted_of_bindMount runs.after_willing)
      simpa using congrArg List.length (runs.unique both)
    · rw [mount_of_not_bind asked]
      constructor
      · rintro ⟨padded, runs⟩
        exact ⟨accepted_of_mountOnce runs.after_willing, asked, padded⟩
      · rintro ⟨accepted, _, padded⟩
        exact ⟨padded, runs_mountOnce accepted⟩
  · rw [BindsInTwoSteps]
    by_cases asked : "bind" ∈ options
    · rw [mount_of_bind asked]
      constructor
      · intro runs
        exact ⟨accepted_of_bindMount runs.after_willing, asked⟩
      · rintro ⟨accepted, _⟩
        exact runs_bindMount accepted
    · rw [mount_of_not_bind asked]
      refine iff_of_false (fun runs => ?_) fun wanted => asked wanted.2
      have once := runs_mountOnce (accepted_of_mountOnce runs.after_willing)
      simpa using congrArg List.length (once.unique runs)

/-- A padded `bind` is passed with the other options in one step, which loses `ro`. -/
theorem padded_bind_at_once :
    BindsAtOnce "/dev/sdc" "/mnt/data" "" [" bind", "ro"] ∧
      ¬ BindsInTwoSteps "/dev/sdc" "/mnt/data" "" [" bind", "ro"] ∧
      ((mount "/dev/sdc" "/mnt/data" "" [" bind", "ro"]).perform (Script.runner {})).2.map
        (·.invocation) = [⟨"mount", ["-o", "bind,ro", "/dev/sdc", "/mnt/data"]⟩] := by
  have accepted : AcceptedMount "/dev/sdc" "/mnt/data" "" [" bind", "ro"] :=
    ⟨by decide, by decide, by decide, by decide +kernel⟩
  have unasked : "bind" ∉ [" bind", "ro"] := by decide
  have runs := runs_mountOnce accepted
  rw [← mount_of_not_bind unasked] at runs
  have ran : mountArguments "/dev/sdc" "/mnt/data" "" [" bind", "ro"] =
      ["-o", "bind,ro", "/dev/sdc", "/mnt/data"] := by decide
  refine ⟨⟨by decide, runs⟩, fun both => ?_, ?_⟩
  · simpa using congrArg List.length (runs.unique both)
  · rw [Exec.perform_eq, runs, ran]
    rfl

end HostStorage
