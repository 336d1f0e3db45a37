import HostStorage.Proofs.Text.Pieces
import HostStorage.Proofs.Volume.Preparation
import Mathlib.Data.List.Basic

/-!
# Only blank disks are formatted

A disk is blank if its list of types has no character that is not blank and tells of no child. Along
every run of a preparation, formatting comes directly after such a list and after a failed mount
(`Preparation.Careful` is kept by every step), so `mkfs_only_of_blank_disk` holds whatever the
commands report.
-/
namespace HostStorage

/-- A list of types without any type, and without a row for a child. -/
def ShowsBlankDisk (output : String) : Prop :=
  (∀ c ∈ output.toList, Text.isBlank c = true) ∧ '\n' ∉ Text.dropFinal '\n' output.toList

/-- The final newline of a list is blank like the rest of it. -/
theorem allBlank_dropFinal_iff (cs : List Char) :
    (∀ c ∈ Text.dropFinal '\n' cs, Text.isBlank c = true) ↔ ∀ c ∈ cs, Text.isBlank c = true := by
  have same := Text.allBlank_dropFinal (c := '\n') (by decide) cs
  rwa [Text.allBlank, Text.allBlank, Bool.eq_iff_iff, List.all_eq_true, List.all_eq_true] at same

/-- The format that is read off a list of types is empty exactly if the list shows a blank disk. -/
theorem diskFormatOf_eq_empty_iff (output : String) :
    diskFormatOf output = "" ↔ ShowsBlankDisk output := by
  unfold ShowsBlankDisk
  rw [← allBlank_dropFinal_iff, ← Text.trim_eq_nil_iff]
  unfold diskFormatOf
  generalize Text.dropFinal '\n' output.toList = cs
  by_cases children : '\n' ∈ cs
  · -- there is a row for a child, so what is told is never empty
    have count := Text.length_fields (· == '\n') cs
    have some_newline : 0 < cs.countP (· == '\n') :=
      List.countP_pos_iff.2 ⟨'\n', children, by decide⟩
    match rows : Text.fields (· == '\n') cs with
    | [] => exact absurd rows (Text.fields_ne_nil _ cs)
    | [first] =>
      rw [rows, List.length_singleton] at count
      omega
    | first :: child :: others =>
      by_cases own : Text.trim first = []
      · simp [own, children, partitionedFormat]
      · simp [own, children]
  · have whole : ∀ c ∈ cs, (c == '\n') = false := by
      intro c listed
      apply beq_eq_false_iff_ne.2
      rintro rfl
      exact children listed
    rw [Text.fields_of_forall_not whole]
    by_cases own : Text.trim cs = []
    · simp [own, children]
    · simp [own]

def CommandEvent.isMkfs (e : CommandEvent) : Bool := Text.startsWith e.invocation.program "mkfs."

def OnlyMounts (trace : Trace) : Prop := ∀ e ∈ trace, e.invocation.program = "mount"

theorem OnlyMounts.concat {trace : Trace} (mounts : OnlyMounts trace) {e : CommandEvent}
    (mount : e.invocation.program = "mount") : OnlyMounts (trace ++ [e]) := by
  intro other listed
  rcases List.mem_append.1 listed with earlier | last
  · exact mounts other earlier
  · rw [List.mem_singleton.1 last]
    exact mount

namespace Preparation

variable (p : Preparation)

/-- The commands so far end with a list of types that shows a blank disk, after a failed mount. -/
def FoundBlank (trace : Trace) : Prop :=
  ∃ mounts output, trace = mounts ++ [⟨p.typeQuery, .ok output⟩] ∧ OnlyMounts mounts ∧
    (∃ e ∈ mounts, e.failed = true) ∧ output.success = true ∧ ShowsBlankDisk output.stdoutText

/-- The commands so far format the disk once, after it was found blank, and mount it then. -/
def Formatted (trace : Trace) : Prop :=
  ∃ before made after, trace = before ++ made :: after ∧ p.FoundBlank before ∧
    made.invocation = p.formatCommand ∧ OnlyMounts after

/-- The commands so far end with the question for the type. -/
def Asked (trace : Trace) : Prop :=
  ∃ mounts asked, trace = mounts ++ [asked] ∧ OnlyMounts mounts ∧ asked.invocation = p.typeQuery

/-- What holds of the commands before a stage. -/
def Careful : Stage → Trace → Prop
  | .mounting _ _, trace => OnlyMounts trace
  | .asking _, trace => OnlyMounts trace ∧ ∃ e ∈ trace, e.failed = true
  | .formatting, trace => p.FoundBlank trace
  | .retrying _ _, trace => p.Formatted trace
  | .ended _, trace => OnlyMounts trace ∨ p.Asked trace ∨ p.Formatted trace

variable {p}

theorem Formatted.concat {trace : Trace} (formatted : p.Formatted trace) {e : CommandEvent}
    (mount : e.invocation.program = "mount") : p.Formatted (trace ++ [e]) := by
  obtain ⟨before, made, after, rfl, found, makes, mounts⟩ := formatted
  exact ⟨before, made, after ++ [e], by simp, found, makes, OnlyMounts.concat mounts mount⟩

/-- After the last mount of a phase the preparation has ended, whatever the phase was. -/
theorem careful_enter (stage : List String → List (List String) → Stage) {trace : Trace}
    (ended : p.Careful (.ended (.ok ())) trace)
    (going : ∀ now later, p.Careful (stage now later) trace) (later : List (List String)) :
    p.Careful (enter stage later) trace := by
  cases later with
  | nil => exact ended
  | cons now later => exact going now later

theorem careful_afterFailure {trace : Trace} (mounts : OnlyMounts trace)
    (failed : ∃ e ∈ trace, e.failed = true) (mountError : StorageError) :
    p.Careful (p.afterFailure mountError) trace := by
  unfold afterFailure
  split
  · exact ⟨mounts, failed⟩
  · exact Or.inl mounts

/-- What holds before a stage holds, with its command, before the next one. -/
theorem careful_advance {stage : Stage} {trace : Trace} {i : Invocation} (runner : Runner)
    (careful : p.Careful stage trace) (runs : p.command? stage = some i) :
    p.Careful (p.advance stage (runner trace i)) (trace ++ [.of runner trace i]) := by
  cases stage with
  | mounting now later =>
    cases runs
    have mounts : OnlyMounts (trace ++ [.of runner trace (mountCommand now)]) :=
      OnlyMounts.concat careful rfl
    simp only [advance, afterMount]
    split
    next => exact careful_enter .mounting (Or.inl mounts) (fun _ _ => mounts) later
    next e failure =>
      have failed := (Exec.failed_eq_true_iff runner trace (i := mountCommand now)).2 ⟨e, failure⟩
      exact careful_afterFailure mounts ⟨_, by simp, failed⟩ e
  | asking mountError =>
    cases runs
    obtain ⟨mounts, failed⟩ := careful
    have asked : p.Asked (trace ++ [.of runner trace p.typeQuery]) :=
      ⟨trace, .of runner trace p.typeQuery, rfl, mounts, rfl⟩
    simp only [advance]
    split
    next output answer =>
      obtain ⟨outcome, success⟩ := Exec.outcome_of_succeeded answer
      unfold afterAnswer
      split
      next blank =>
        refine ⟨trace, output, ?_, mounts, failed, success, (diskFormatOf_eq_empty_iff _).1 blank⟩
        rw [CommandEvent.of, outcome]
      next =>
        split
        · exact Or.inr (Or.inl asked)
        · exact Or.inr (Or.inl asked)
    next => exact Or.inr (Or.inl asked)
  | formatting =>
    cases runs
    have formatted : p.Formatted (trace ++ [.of runner trace p.formatCommand]) :=
      ⟨trace, _, [], rfl, careful, rfl, fun _ listed => absurd listed List.not_mem_nil⟩
    exact careful_enter .retrying (Or.inr (Or.inr formatted)) (fun _ _ => formatted) _
  | retrying now later =>
    cases runs
    have formatted : p.Formatted (trace ++ [.of runner trace (mountCommand now)]) :=
      Formatted.concat careful rfl
    simp only [advance, afterMount]
    split
    next => exact careful_enter .retrying (Or.inr (Or.inr formatted)) (fun _ _ => formatted) later
    next => exact Or.inr (Or.inr formatted)
  | ended result => cases runs

/-- Every run of a preparation is careful to its end. -/
theorem Run.careful {runner : Runner} {stage : Stage} {trace final : Trace}
    {result : Except StorageError Unit} (run : p.Run runner stage trace result final)
    (careful : p.Careful stage trace) : p.Careful (.ended result) final := by
  induction run with
  | ended => exact careful
  | command runs _ ih => exact ih (careful_advance runner careful runs)

theorem careful_start (p : Preparation) : p.Careful p.start [] := by
  have nothing : OnlyMounts [] := fun _ listed => absurd listed List.not_mem_nil
  unfold start
  split
  · exact careful_enter .mounting (Or.inl nothing) (fun _ _ => nothing) _
  · exact Or.inl nothing

/-- A mount makes no file system. -/
theorem OnlyMounts.not_isMkfs {trace : Trace} (mounts : OnlyMounts trace) {e : CommandEvent}
    (listed : e ∈ trace) : e.isMkfs = false := by
  rw [CommandEvent.isMkfs, mounts e listed]
  decide

/-- The question for the type makes no file system. -/
theorem not_isMkfs_of_typeQuery {e : CommandEvent} (asked : e.invocation = p.typeQuery) :
    e.isMkfs = false := by
  rw [CommandEvent.isMkfs, asked]
  change Text.startsWith "lsblk" "mkfs." = false
  decide

theorem FoundBlank.not_isMkfs {trace : Trace} (found : p.FoundBlank trace) {e : CommandEvent}
    (listed : e ∈ trace) : e.isMkfs = false := by
  obtain ⟨mounts, output, rfl, only, _⟩ := found
  rcases List.mem_append.1 listed with mount | asked
  · exact OnlyMounts.not_isMkfs only mount
  · rw [List.mem_singleton.1 asked]
    exact not_isMkfs_of_typeQuery rfl

/-- Where a command makes a file system, the commands before it found the disk blank, and no other
command makes one. -/
theorem foundBlank_of_isMkfs {result : Except StorageError Unit} {before after : Trace}
    {made : CommandEvent} (careful : p.Careful (.ended result) (before ++ made :: after))
    (makes : made.isMkfs = true) :
    p.FoundBlank before ∧ OnlyMounts after := by
  have listed : made ∈ before ++ made :: after := by simp
  rcases careful with only | ⟨mounts, asked, whole, only, asks⟩ |
    ⟨found, making, mounts, whole, foundBlank, _, only⟩
  · exact absurd makes (by simp [OnlyMounts.not_isMkfs only listed])
  · rw [whole] at listed
    rcases List.mem_append.1 listed with mount | last
    · exact absurd makes (by simp [OnlyMounts.not_isMkfs only mount])
    · rw [List.mem_singleton.1 last] at makes
      exact absurd makes (by simp [not_isMkfs_of_typeQuery asks])
  · have notFound : made ∉ found :=
      fun earlier => absurd makes (by simp [FoundBlank.not_isMkfs foundBlank earlier])
    have notMount : made ∉ mounts :=
      fun later => absurd makes (by simp [OnlyMounts.not_isMkfs only later])
    obtain ⟨rfl, rfl, rfl⟩ := (List.append_cons_inj_of_notMem notFound notMount).1 whole.symm
    exact ⟨foundBlank, only⟩

/-- A run makes at most one file system. -/
theorem countP_isMkfs_le_one {result : Except StorageError Unit} {trace : Trace}
    (careful : p.Careful (.ended result) trace) : trace.countP (·.isMkfs) ≤ 1 := by
  rcases Nat.eq_zero_or_pos (trace.countP (·.isMkfs)) with never | once
  · omega
  · obtain ⟨made, listed, makes⟩ := List.countP_pos_iff.1 once
    obtain ⟨before, after, rfl⟩ := List.append_of_mem listed
    obtain ⟨found, mounts⟩ := foundBlank_of_isMkfs careful makes
    have earlier : before.countP (·.isMkfs) = 0 :=
      List.countP_eq_zero.2 fun e member => by simp [FoundBlank.not_isMkfs found member]
    have later : after.countP (·.isMkfs) = 0 :=
      List.countP_eq_zero.2 fun e member => by simp [OnlyMounts.not_isMkfs mounts member]
    rw [List.countP_append, List.countP_cons_of_pos makes, earlier, later]

/-- The list of types in a run that makes a file system shows a blank disk. -/
theorem showsBlankDisk_of_isMkfs {result : Except StorageError Unit} {trace : Trace}
    (careful : p.Careful (.ended result) trace) {made asked : CommandEvent} {output : CommandOutput}
    (madeListed : made ∈ trace) (makes : made.isMkfs = true) (askedListed : asked ∈ trace)
    (asks : asked.invocation.program = "lsblk") (answer : asked.outcome = .ok output) :
    ShowsBlankDisk output.stdoutText := by
  obtain ⟨before, after, rfl⟩ := List.append_of_mem madeListed
  obtain ⟨⟨mounts, shown, rfl, only, _, _, blank⟩, later⟩ := foundBlank_of_isMkfs careful makes
  have notMount : ∀ {trace : Trace}, OnlyMounts trace → asked ∉ trace := by
    intro trace onlyMounts listed
    have mount := onlyMounts asked listed
    rw [asks] at mount
    exact absurd mount (by decide)
  rcases List.mem_append.1 askedListed with earlier | here | inAfter
  · rcases List.mem_append.1 earlier with mount | last
    · exact absurd mount (notMount only)
    · rw [List.mem_singleton.1 last] at answer
      cases answer
      exact blank
  · rw [CommandEvent.isMkfs, asks] at makes
    exact absurd makes (by decide)
  · exact absurd (by assumption) (notMount later)

end Preparation

/-- A preparation formats a disk only directly after a list of types that shows it blank, which
follows a failed mount, and at most once; a list that shows anything else rules formatting out. -/
theorem mkfs_only_of_blank_disk (noDiscard : Bool) (source target fsType : String)
    (options : List String) (runner : Runner) :
    let trace := ((formatAndMount noDiscard source target fsType options).perform runner).2
    (∀ before made after, trace = before ++ made :: after → made.isMkfs = true →
      ∃ earlier output,
        before = earlier ++ [⟨⟨"lsblk", ["-n", "-o", "FSTYPE", source]⟩, .ok output⟩] ∧
        (∃ e ∈ earlier, e.invocation.program = "mount" ∧ e.failed = true) ∧
        output.success = true ∧ ShowsBlankDisk output.stdoutText) ∧
    trace.countP (·.isMkfs) ≤ 1 ∧
    (∀ asked ∈ trace, ∀ output, asked.invocation.program = "lsblk" → asked.outcome = .ok output →
      ¬ ShowsBlankDisk output.stdoutText → ∀ e ∈ trace, e.isMkfs = false) := by
  intro trace
  let p : Preparation := ⟨noDiscard, source, target, fsType, options⟩
  have careful : p.Careful (.ended _) trace :=
    (p.run_formatAndMount runner).careful p.careful_start
  refine ⟨?_, Preparation.countP_isMkfs_le_one careful, ?_⟩
  · intro before made after whole makes
    rw [whole] at careful
    obtain ⟨⟨mounts, output, rfl, only, ⟨e, listed, failed⟩, success, blank⟩, _⟩ :=
      Preparation.foundBlank_of_isMkfs careful makes
    exact ⟨mounts, output, rfl, ⟨e, listed, only e listed, failed⟩, success, blank⟩
  · intro asked askedListed output asks answer notBlank e listed
    cases makes : e.isMkfs with
    | false => rfl
    | true =>
      have blank :=
        Preparation.showsBlankDisk_of_isMkfs careful listed makes askedListed asks answer
      exact absurd blank notBlank

/-- A blank disk is formatted after its first mount failed. -/
theorem blank_disk_is_formatted :
    let commands := ((formatAndMount false "/dev/sdz1" "/mnt/x" "ext4" []).perform
      (Script.runner { answers := [("mount", ⟨false, some 32, [], []⟩),
        ("lsblk", ⟨true, some 0, [0x0a], []⟩)] })).2
    commands.countP (·.isMkfs) = 1 ∧ ∃ earlier output,
      commands.take 2 = earlier ++ [⟨⟨"lsblk", ["-n", "-o", "FSTYPE", "/dev/sdz1"]⟩, .ok output⟩] ∧
      (∃ e ∈ earlier, e.invocation.program = "mount" ∧ e.failed = true) ∧
      output.success = true ∧ ShowsBlankDisk output.stdoutText := by
  intro commands
  have third : commands[2]?.map (·.isMkfs) = some true := by decide +kernel
  obtain ⟨made, here, makes⟩ := Option.map_eq_some_iff.1 third
  obtain ⟨long, here⟩ := List.getElem?_eq_some_iff.1 here
  have whole : commands = commands.take 2 ++ made :: commands.drop 3 := by
    rw [← here, ← List.drop_eq_getElem_cons long, List.take_append_drop]
  exact ⟨by decide +kernel, (mkfs_only_of_blank_disk false "/dev/sdz1" "/mnt/x" "ext4" [] _).1
    (commands.take 2) made (commands.drop 3) whole makes⟩

end HostStorage
