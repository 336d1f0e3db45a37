import HostStorage.Proofs.Text.Words
import HostStorage.Proofs.Volume.RootGuard

/-!
# How a volume is formatted

A volume is formatted on demand, or while it is prepared and found blank. The command is the same
(`format_as_prepared`): it depends on the request alone, not on what the commands before it
reported. Its arguments are those of the caller, the flags that the type and the request call for,
and the volume, in a fixed order.
-/
namespace HostStorage

/-- The arguments that a caller has for the tool: the words behind the mark of the last option. -/
inductive FormatArguments : List String → List String → Prop
  | unmarked {options : List String}
      (plain : ∀ raw, options.getLast? ≠ some (formatOptionMark ++ raw)) :
      FormatArguments options []
  | marked {before callers : List String} {raw : String}
      (spaced : Text.HasWords raw.toList (callers.map String.toList)) :
      FormatArguments (before ++ [formatOptionMark ++ raw]) callers

def IsExtType (fsType : String) : Prop := fsType = "ext3" ∨ fsType = "ext4"

instance : DecidablePred IsExtType :=
  fun fsType => inferInstanceAs (Decidable (fsType = "ext3" ∨ fsType = "ext4"))

/-- Flags that are given under a condition only. -/
def flagsIf (condition : Prop) [Decidable condition] (flags : List String) : List String :=
  if condition then flags else []

/-- The arguments of a caller are split off the options. -/
theorem formatArguments_splitFormatOption (options : List String) :
    FormatArguments options (splitFormatOption options).2 := by
  unfold splitFormatOption
  split
  next last isLast =>
    split
    next raw marked =>
      obtain ⟨before, rfl⟩ := List.getLast?_eq_some_iff.1 isLast
      have whole : last = formatOptionMark ++ String.ofList raw := by
        rw [← String.toList_inj, String.toList_append, String.toList_ofList]
        exact (List.isPrefixOf?_eq_some_iff_append_eq.1 marked).symm
      rw [whole]
      apply FormatArguments.marked
      rw [String.toList_ofList, ← Text.words_eq_iff]
      simp [Function.comp_def]
    next unmarked =>
      refine .unmarked fun raw isMarked => ?_
      rw [isLast, Option.some_inj] at isMarked
      rw [isMarked, String.toList_append, List.isPrefixOf?_eq_some_iff_append_eq.2 rfl] at unmarked
      cases unmarked
  next nothing =>
    refine .unmarked fun raw isMarked => ?_
    rw [nothing] at isMarked
    cases isMarked

theorem isExt_eq_true_iff (fsType : String) : isExt fsType = true ↔ IsExtType fsType := by
  simp [isExt, IsExtType, or_comm]

theorem noDiscardFlags_eq (fsType : String) :
    noDiscardFlags fsType =
      flagsIf (IsExtType fsType) ["-E", "nodiscard"] ++ flagsIf (fsType = "xfs") ["-K"] := by
  unfold noDiscardFlags isXfs flagsIf
  by_cases ext : IsExtType fsType
  · have notXfs : fsType ≠ "xfs" := by
      rcases ext with rfl | rfl <;> decide
    rw [if_pos ((isExt_eq_true_iff fsType).2 ext), if_pos ext, if_neg notXfs, List.append_nil]
  · have notExt : ¬ isExt fsType = true := fun isExt => ext ((isExt_eq_true_iff fsType).1 isExt)
    simp only [if_neg notExt, if_neg ext, beq_iff_eq, List.nil_append]

/-- The arguments of the tool, each flag under its own condition. -/
theorem mkfsArguments_eq (fsType source : String) (callers : List String) (noDiscard : Bool) :
    mkfsArguments fsType source callers noDiscard =
      callers ++ flagsIf (IsExtType fsType ∧ callers = []) ["-F"] ++
        flagsIf (IsExtType fsType ∧ noDiscard = true) ["-E", "nodiscard"] ++
        flagsIf (fsType = "xfs" ∧ noDiscard = true) ["-K"] ++ [source] ++
        flagsIf (fsType = "xfs" ∧ callers = []) ["-m", "crc=0"] := by
  unfold mkfsArguments isXfs
  rw [noDiscardFlags_eq]
  cases callers <;> cases noDiscard <;> simp [flagsIf, isExt_eq_true_iff]

namespace Preparation

variable {p : Preparation}

/-- The only command of a preparation that makes a file system is its own one. -/
theorem Careful.invocation_of_isMkfs {result : Except StorageError Unit} {trace : Trace}
    (careful : p.Careful (.ended result) trace) {made : CommandEvent} (ran : made ∈ trace)
    (makes : made.isMkfs = true) : made.invocation = p.formatCommand := by
  have passed : ∀ {trace : Trace}, OnlyMounts trace → made ∉ trace := by
    intro trace only listed
    rw [OnlyMounts.not_isMkfs only listed] at makes
    cases makes
  rcases careful with only | ⟨mounts, asked, rfl, only, asks⟩ |
    ⟨found, making, mounts, rfl, foundBlank, formats, only⟩
  · exact absurd ran (passed only)
  · rcases List.mem_append.1 ran with mount | last
    · exact absurd mount (passed only)
    · rw [List.mem_singleton.1 last, not_isMkfs_of_typeQuery asks] at makes
      cases makes
  · rcases List.mem_append.1 ran with earlier | here
    · rw [foundBlank.not_isMkfs earlier] at makes
      cases makes
    · rcases List.mem_cons.1 here with rfl | later
      · exact formats
      · exact absurd later (passed only)

/-- A preparation that runs a command has accepted what it was asked for. -/
theorem accepted_of_mem {runner : Runner} {event : CommandEvent}
    (ran : event ∈
      ((formatAndMount p.noDiscard p.source p.target p.fsType p.options).perform runner).2) :
    AcceptedMount p.source p.target p.fsType p.options := by
  have checks :=
    checksFirst_formatAndMount runner p.source p.target p.fsType p.options p.noDiscard
  cases checked : checkMountArguments p.source p.target p.fsType p.options with
  | ok _ => exact (checkMountArguments_eq_ok_iff _ _ _ _).1 checked
  | error e =>
    rw [checks.refuses e checked] at ran
    cases ran

/-- On demand, a volume is formatted by one command, whatever comes of it. -/
theorem trace_format (accepted : AcceptedMount p.source p.target p.fsType p.options)
    (runner : Runner) :
    ((format p.noDiscard p.source p.target p.fsType p.options).perform runner).2 =
      [.of runner [] p.formatCommand] := by
  have passes := after_check_of_accepted runner accepted
  rw [format, Exec.perform_eq, Exec.after_bind_of_ok runner [] _ passes, ← Exec.perform_eq,
    Exec.trace_perform_bind_pure runner _ fun _ => (), Exec.perform_eq, Exec.after_runChecked]
  rfl

end Preparation

/-- If a preparation makes a file system, formatting the same volume on demand runs the same command
and no other, on any host. The command is the tool for the type, ext4 if none is asked for, with the
arguments of the caller as they are, then `-F` for the ext family if the caller has none, then the
flags that skip discarding if that is asked for, then the volume, and last `-m crc=0` for xfs if the
caller has no arguments. -/
theorem format_as_prepared (noDiscard : Bool) (source target fsType : String)
    (options : List String) (runner other : Runner) {made : CommandEvent}
    (ran : made ∈ ((formatAndMount noDiscard source target fsType options).perform runner).2)
    (makes : made.isMkfs = true) :
    (∃ alone, ((format noDiscard source target fsType options).perform other).2 = [alone] ∧
      alone.invocation = made.invocation) ∧
    ∃ type callers, type = (if fsType = "" then "ext4" else fsType) ∧
      FormatArguments options callers ∧
      made.invocation = ⟨"mkfs." ++ type,
        callers ++ flagsIf (IsExtType type ∧ callers = []) ["-F"] ++
          flagsIf (IsExtType type ∧ noDiscard = true) ["-E", "nodiscard"] ++
          flagsIf (type = "xfs" ∧ noDiscard = true) ["-K"] ++ [source] ++
          flagsIf (type = "xfs" ∧ callers = []) ["-m", "crc=0"]⟩ := by
  let p : Preparation := ⟨noDiscard, source, target, fsType, options⟩
  have careful := (p.run_formatAndMount runner).careful p.careful_start
  have command : made.invocation = p.formatCommand := careful.invocation_of_isMkfs ran makes
  have accepted : AcceptedMount p.source p.target p.fsType p.options :=
    Preparation.accepted_of_mem ran
  constructor
  · exact ⟨_, p.trace_format accepted other, command.symm⟩
  · refine ⟨fsTypeOrDefault fsType, (splitFormatOption options).2, ?_,
      formatArguments_splitFormatOption options, ?_⟩
    · simp only [fsTypeOrDefault, String.isEmpty_iff, defaultFsType]
    · rw [command, ← mkfsArguments_eq]
      rfl

/-- A volume that is found blank is formatted as on demand, also where formatting on demand cannot
be started. -/
theorem blank_volume_formatted_as_on_demand :
    let options := ["ro", "fsFormatOption: -i  size=512"]
    let runner := Script.runner { answers := [("mount", ⟨false, some 32, [], []⟩),
      ("lsblk", ⟨true, some 0, [0x0a], []⟩)] }
    let other := Script.runner { refusals := [("mkfs.xfs", .noEntry)] }
    ∃ made ∈ ((formatAndMount true "/dev/sdz1" "/mnt/x" "xfs" options).perform runner).2,
      made.isMkfs = true ∧
      made.invocation = ⟨"mkfs.xfs", ["-i", "size=512", "-K", "/dev/sdz1"]⟩ ∧
      ∃ alone, ((format true "/dev/sdz1" "/mnt/x" "xfs" options).perform other).2 = [alone] ∧
        alone.invocation = made.invocation := by
  intro options runner other
  have third : ((formatAndMount true "/dev/sdz1" "/mnt/x" "xfs" options).perform runner).2[2]?.map
      (·.invocation) = some ⟨"mkfs.xfs", ["-i", "size=512", "-K", "/dev/sdz1"]⟩ := by
    decide +kernel
  obtain ⟨made, here, command⟩ := Option.map_eq_some_iff.1 third
  have ran := List.mem_of_getElem? here
  have makes : made.isMkfs = true := by
    rw [CommandEvent.isMkfs, command]
    decide
  have alike := format_as_prepared true "/dev/sdz1" "/mnt/x" "xfs" options runner other ran makes
  exact ⟨made, ran, makes, command, alike.1⟩

end HostStorage
