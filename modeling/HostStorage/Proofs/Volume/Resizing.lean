import HostStorage.Proofs.Result
import HostStorage.Proofs.Volume.PathTasks

/-!
# What growing a volume runs

Growing a volume is at most two tools in turn: the partition table of a pseudo device is read again,
and then the file system is grown. Which path the second tool acts on depends on the map, the type
and the pseudo device; whatever climbs these contain, the path is cleaned and never the root
directory (`resizes_act_on_clean_paths`).
-/
namespace HostStorage

/-- If an element is not among the first ones and at most one follows these, it is that one. -/
theorem last_of_prefix_append {α : Type} {before after first last : List α} {a : α}
    (whole : before ++ a :: after <+: first ++ last) (notFirst : a ∉ first)
    (atMostOne : last.length ≤ 1) : before = first ∧ last = [a] ∧ after = [] := by
  obtain ⟨rest, whole⟩ := whole
  rw [List.append_assoc, List.append_eq_append_iff] at whole
  obtain ⟨others, rfl, tail⟩ :
      ∃ others, before = first ++ others ∧ last = others ++ a :: (after ++ rest) := by
    rcases whole with ⟨others, split, tail⟩ | inside
    · cases others with
      | nil => exact ⟨[], by simp [split], tail.symm⟩
      | cons other others =>
        have same : a = other := (List.cons.inj tail).1
        rw [split, same] at notFirst
        exact absurd (List.mem_append_right before List.mem_cons_self) notFirst
    · exact inside
  have count : others.length + (after.length + rest.length + 1) ≤ 1 := by
    simpa [tail] using atMostOne
  have noOthers : others = [] := List.eq_nil_of_length_eq_zero (by omega)
  have noAfter : after = [] := List.eq_nil_of_length_eq_zero (by omega)
  have noRest : rest = [] := List.eq_nil_of_length_eq_zero (by omega)
  subst noOthers noAfter noRest
  exact ⟨List.append_nil first, tail, rfl⟩

structure Resize where
  mountPoint : String
  device : String
  pseudoDevice : String
  map : String
  fsType : String

def growableTypes : List String := ["ext3", "ext4", "xfs"]

namespace Resize

variable (r : Resize)

def reread : PathTask := ⟨"blockdev", ["--rereadpt"], "/dev/" ++ r.pseudoDevice⟩

/-- What runs first: nothing, if there is no pseudo device. -/
def rereads : List PathTask := if r.pseudoDevice = "" then [] else [r.reread]

def grownPath : String :=
  if r.map ≠ "" then "/dev/mapper/" ++ r.map
  else if r.fsType = "xfs" then r.mountPoint
  else if r.pseudoDevice ≠ "" then "/dev/" ++ r.pseudoDevice
  else r.device

/-- The growing of a file system, if its type can be grown. -/
def growths : List PathTask :=
  if r.fsType = "ext3" ∨ r.fsType = "ext4" then [⟨"resize2fs", [], r.grownPath⟩]
  else if r.fsType = "xfs" then [⟨"xfs_growfs", ["-d"], r.grownPath⟩]
  else []

def tasks : List PathTask := r.rereads ++ r.growths

/-- What a resize comes to once its tools have succeeded. -/
def verdict : Except StorageError Unit :=
  if r.fsType ∈ growableTypes then .ok () else .error (.unsupportedResize r.fsType)

theorem rereads_of_noPseudo (noPseudo : r.pseudoDevice = "") : r.rereads = [] := if_pos noPseudo

theorem rereads_of_pseudo (pseudo : r.pseudoDevice ≠ "") : r.rereads = [r.reread] := if_neg pseudo

theorem growths_of_ext (ext : r.fsType = "ext3" ∨ r.fsType = "ext4") :
    r.growths = [⟨"resize2fs", [], r.grownPath⟩] := if_pos ext

theorem growths_of_xfs (xfs : r.fsType = "xfs") :
    r.growths = [⟨"xfs_growfs", ["-d"], r.grownPath⟩] := by
  simp [growths, xfs]

/-- A type that can be grown is of the ext family or xfs. -/
theorem growable_iff : r.fsType ∈ growableTypes ↔
    (r.fsType = "ext3" ∨ r.fsType = "ext4") ∨ r.fsType = "xfs" := by
  simp [growableTypes, or_assoc]

theorem growths_of_growable (growable : r.fsType ∈ growableTypes) :
    ∃ program flags, r.growths = [⟨program, flags, r.grownPath⟩] := by
  rcases r.growable_iff.1 growable with ext | xfs
  · exact ⟨_, _, r.growths_of_ext ext⟩
  · exact ⟨_, _, r.growths_of_xfs xfs⟩

theorem growths_of_not_growable (not : r.fsType ∉ growableTypes) : r.growths = [] := by
  rw [growable_iff, not_or] at not
  rw [growths, if_neg not.1, if_neg not.2]

theorem verdict_eq_ok_iff : r.verdict = .ok () ↔ r.fsType ∈ growableTypes := by
  simp [verdict]

/-- The growing as it is written, once the partition table is read again. -/
theorem growths_eq :
    (do runTasks r.growths; Exec.check r.verdict) =
      (do
        let device := if r.pseudoDevice.isEmpty then r.device else "/dev/" ++ r.pseudoDevice
        let mapped := "/dev/mapper/" ++ r.map
        if isExt r.fsType then
          let _ ← runOnPath "resize2fs" [] (if r.map.isEmpty then device else mapped)
        else if isXfs r.fsType then
          let _ ← runOnPath "xfs_growfs" ["-d"] (if r.map.isEmpty then r.mountPoint else mapped)
        else throw (.unsupportedResize r.fsType)) := by
  by_cases ext : r.fsType = "ext3" ∨ r.fsType = "ext4"
  · have isExt : isExt r.fsType = true := by
      simpa [HostStorage.isExt, or_comm] using ext
    have notXfs : r.fsType ≠ "xfs" := by
      rcases ext with same | same <;> simp [same]
    have path : r.grownPath = if r.map.isEmpty then
        if r.pseudoDevice.isEmpty then r.device else "/dev/" ++ r.pseudoDevice
        else "/dev/mapper/" ++ r.map := by
      simp [grownPath, notXfs]
    have ok : r.verdict = .ok () := r.verdict_eq_ok_iff.2 (r.growable_iff.2 (Or.inl ext))
    simp [r.growths_of_ext ext, ok, isExt, runTasks, path, Exec.check]
  · by_cases xfs : r.fsType = "xfs"
    · have ok : r.verdict = .ok () := r.verdict_eq_ok_iff.2 (r.growable_iff.2 (Or.inr xfs))
      simp [r.growths_of_xfs xfs, ok, xfs, isExt, isXfs, runTasks, grownPath, Exec.check]
    · have not : r.fsType ∉ growableTypes := by
        rw [growable_iff]
        exact not_or.2 ⟨ext, xfs⟩
      have notExt : isExt r.fsType = false := by
        simpa [HostStorage.isExt, and_comm] using ext
      simp [r.growths_of_not_growable not, verdict, not, notExt, xfs, isXfs, runTasks, Exec.check]

/-- A resize is its tasks in turn and then its verdict. -/
theorem resizeFs_eq :
    resizeFs r.mountPoint r.device r.pseudoDevice r.map r.fsType =
      (do runTasks r.tasks; Exec.check r.verdict) := by
  by_cases noPseudo : r.pseudoDevice = ""
  · rw [tasks, r.rereads_of_noPseudo noPseudo, List.nil_append, growths_eq]
    simp [resizeFs, noPseudo]
  · rw [tasks, r.rereads_of_pseudo noPseudo, List.singleton_append, runTasks, bind_assoc]
    simp only [growths_eq]
    simp [resizeFs, reread, noPseudo]

variable {runner : Runner} {result : Except StorageError Unit} {final : Trace}

theorem perform_of_taskRun (run : TaskRun runner [] r.tasks result final) :
    (resizeFs r.mountPoint r.device r.pseudoDevice r.map r.fsType).perform runner =
      (do result; r.verdict, final) := by
  rw [resizeFs_eq, Exec.perform_eq]
  cases result with
  | error e => exact Exec.after_bind_of_error runner [] _ run.after_eq
  | ok _ =>
    exact (Exec.after_bind_of_ok runner [] _ run.after_eq).trans (Exec.after_check runner final _)

/-- Every resize is one run of its tasks. -/
theorem exists_run (runner : Runner) : ∃ result final, TaskRun runner [] r.tasks result final ∧
    (resizeFs r.mountPoint r.device r.pseudoDevice r.map r.fsType).perform runner =
      (do result; r.verdict, final) := by
  have run := after_runTasks_eq_iff.1 (Prod.eta ((runTasks r.tasks).after runner []))
  exact ⟨_, _, run, r.perform_of_taskRun run⟩

/-! ## What the runs leave behind -/

/-- The tools of resizes, with what comes before the path. -/
def tools : List (String × List String) :=
  [("blockdev", ["--rereadpt"]), ("resize2fs", []), ("xfs_growfs", ["-d"]),
    ("multipathd", ["resize", "map"]), ("findmnt", ["-n", "-o", "FSTYPE"])]

/-- What a resize ran, and when it succeeded. Any command but `blockdev` is the one that grows the
file system. -/
structure Account (performed : Except StorageError Unit × Trace) : Prop where
  inTurn : performed.2.map (·.invocation) <+: r.tasks.map PathTask.command
  growth : ∀ before grow after, performed.2 = before ++ grow :: after →
    grow.invocation.program ≠ "blockdev" →
      r.fsType ∈ growableTypes ∧
      before.map (·.invocation) = r.rereads.map PathTask.command ∧
      (∀ e ∈ before, e.failed = false) ∧
      r.growths.map PathTask.command = [grow.invocation] ∧ after = []
  succeeds_iff : performed.1 = .ok () ↔ r.fsType ∈ growableTypes ∧
    performed.2.map (·.invocation) = r.tasks.map PathTask.command ∧
    ∀ e ∈ performed.2, e.failed = false
  onCleanPaths : ∀ e ∈ performed.2, e.invocation.ActsOnCleanPath tools

variable {r}

theorem program_of_mem_rereads {t : PathTask} (listed : t ∈ r.rereads) :
    t.program = "blockdev" := by
  unfold rereads at listed
  split at listed
  · cases listed
  · rw [List.mem_singleton.1 listed]
    rfl

theorem length_growths_le : r.growths.length ≤ 1 := by
  by_cases growable : r.fsType ∈ growableTypes
  · obtain ⟨_, _, growths⟩ := r.growths_of_growable growable
    rw [growths]
    exact Nat.le_refl 1
  · rw [r.growths_of_not_growable growable]
    exact Nat.zero_le 1

theorem mem_tools {t : PathTask} (listed : t ∈ r.tasks) : (t.program, t.flags) ∈ tools := by
  rcases List.mem_append.1 listed with reread | growth
  · unfold rereads at reread
    split at reread
    · cases reread
    · rw [List.mem_singleton.1 reread]
      simp [Resize.reread, tools]
  · unfold growths at growth
    split at growth
    · rw [List.mem_singleton.1 growth]
      simp [tools]
    · split at growth
      · rw [List.mem_singleton.1 growth]
        simp [tools]
      · cases growth

variable {events : Trace}

/-- Only the growing of a type that can be grown runs another command than `blockdev`, and only
once the partition table has been read again. -/
theorem growth_of_events (told : EventsOfTasks r.tasks result events) {before after : Trace}
    {grow : CommandEvent} (split : events = before ++ grow :: after)
    (grows : grow.invocation.program ≠ "blockdev") :
    r.fsType ∈ growableTypes ∧ before.map (·.invocation) = r.rereads.map PathTask.command ∧
      (∀ e ∈ before, e.failed = false) ∧
      r.growths.map PathTask.command = [grow.invocation] ∧ after = [] := by
  have inTurn := told.inTurn
  rw [split, List.map_append, List.map_cons, tasks, List.map_append] at inTurn
  have notReread : grow.invocation ∉ r.rereads.map PathTask.command := by
    intro reread
    obtain ⟨t, listed, command⟩ := List.mem_map.1 reread
    rw [← command] at grows
    exact grows (program_of_mem_rereads listed)
  obtain ⟨first, last, nothing⟩ := last_of_prefix_append inTurn notReread
    (by rw [List.length_map]; exact length_growths_le)
  have growable : r.fsType ∈ growableTypes := by
    by_contra not
    rw [r.growths_of_not_growable not] at last
    cases last
  have successes := told.onlyAfterSuccess
  rw [split, List.pairwise_append] at successes
  exact ⟨growable, first, fun e listed => successes.2.2 e listed grow List.mem_cons_self, last,
    List.map_eq_nil_iff.1 nothing⟩

theorem account_of_events (told : EventsOfTasks r.tasks result events) :
    r.Account (do result; r.verdict, events) where
  inTurn := told.inTurn
  growth := fun _ _ _ => growth_of_events told
  succeeds_iff := by
    rw [bind_eq_ok_iff, ← told.succeeds_iff, ← r.verdict_eq_ok_iff]
    constructor
    · intro ⟨_, succeeds, verdict⟩
      exact ⟨verdict, succeeds⟩
    · intro ⟨verdict, succeeds⟩
      exact ⟨(), succeeds, verdict⟩
  onCleanPaths := told.act_on_clean_paths fun _ => mem_tools

end Resize

/-- Having a map's new size taken over is one task. -/
theorem exists_run_resizeMultipath (map : String) (runner : Runner) :
    ∃ result final, TaskRun runner [] [⟨"multipathd", ["resize", "map"], map⟩] result final ∧
      (resizeMultipath map).perform runner = (result, final) := by
  obtain ⟨result, final, run⟩ :=
    exists_taskRun runner [] [⟨"multipathd", ["resize", "map"], map⟩]
  exact ⟨result, final, run, run.after_eq⟩

theorem resizeMultipath_on_clean_path (map : String) (runner : Runner) :
    ∀ e ∈ ((resizeMultipath map).perform runner).2,
      e.invocation.ActsOnCleanPath Resize.tools := by
  obtain ⟨result, final, run, performed⟩ := exists_run_resizeMultipath map runner
  obtain ⟨events, rfl, told⟩ := run.events
  rw [performed]
  exact told.act_on_clean_paths fun t listed => by
    rw [List.mem_singleton.1 listed]
    simp [Resize.tools]

theorem mountedFsType_on_clean_path (mountPoint : String) (runner : Runner) :
    ∀ e ∈ ((mountedFsType mountPoint).perform runner).2,
      e.invocation.ActsOnCleanPath Resize.tools := by
  let t : PathTask := ⟨"findmnt", ["-n", "-o", "FSTYPE"], mountPoint⟩
  rw [mountedFsType, Exec.trace_perform_bind_pure]
  exact t.runs_on_clean_path runner (by simp [t, Resize.tools])

/-- Growing a volume runs what is needed in turn, each command after the success of the one before
it, and succeeds exactly if the type can be grown and all of it succeeded. The run of its tasks ends
it: with the refusal of a path that leads to the root directory, with the failure of a command, or
with all of them done, when a type that cannot be grown is refused. The tools of all resizes act on
cleaned paths other than the root directory, wherever the paths asked for lead. -/
theorem resizes_act_on_clean_paths (mountPoint device pseudoDevice map fsType : String)
    (runner : Runner) :
    let asked : Resize := ⟨mountPoint, device, pseudoDevice, map, fsType⟩
    asked.Account ((resizeFs mountPoint device pseudoDevice map fsType).perform runner) ∧
    (∃ result final, TaskRun runner [] asked.tasks result final ∧
      (resizeFs mountPoint device pseudoDevice map fsType).perform runner =
        (do result; asked.verdict, final)) ∧
    (∃ result final, TaskRun runner [] [⟨"multipathd", ["resize", "map"], map⟩] result final ∧
      (resizeMultipath map).perform runner = (result, final)) ∧
    (∀ e ∈ ((resizeMultipath map).perform runner).2,
      e.invocation.ActsOnCleanPath Resize.tools) ∧
    (∀ e ∈ ((mountedFsType mountPoint).perform runner).2,
      e.invocation.ActsOnCleanPath Resize.tools) := by
  intro asked
  obtain ⟨result, final, run, performed⟩ := asked.exists_run runner
  obtain ⟨events, rfl, told⟩ := run.events
  refine ⟨?_, ⟨result, _, run, performed⟩, exists_run_resizeMultipath map runner,
    resizeMultipath_on_clean_path map runner, mountedFsType_on_clean_path mountPoint runner⟩
  change asked.Account ((resizeFs asked.mountPoint asked.device asked.pseudoDevice asked.map
    asked.fsType).perform runner)
  rw [performed]
  exact Resize.account_of_events told

/-- A map that climbs takes the tool elsewhere. -/
example :
    (⟨"/mnt/vol", "/dev/sdb", "", "../sdc", "xfs"⟩ : Resize).tasks.map PathTask.command =
      [⟨"xfs_growfs", ["-d", "/dev/sdc"]⟩] := by decide +kernel

end HostStorage
