import HostStorage.Command.Script
import HostStorage.Proofs.Distinct
import HostStorage.Proofs.Lsblk.Listing
import Mathlib.Data.List.Induction

/-!
# The disks of a multipath volume

When a map stands above a device, the devices are listed again and all rows that mention the device
are taken with the rows directly above them. Every disk among them is told once, in the order of the
listing (`volumeDevices_of_map`).
-/
namespace HostStorage

open DeviceRow (rowsAt mentionedOrAbove)

/-! ## Names told once -/

/-- The names with a mark among those of rows. -/
def markedNames (mark : String) (rows : List DeviceRow) : List String :=
  (rows.map (·.name)).filter (Text.startsWith · mark)

/-- The disks are told by their marks, each once. -/
theorem diskNames_eq (rows : List DeviceRow) :
    diskNames rows = (markedNames "sd" rows).eraseDups ++ (markedNames "nvme" rows).eraseDups := by
  have marked : ∀ mark, (rows.filter (Text.startsWith ·.name mark)).map (·.name) =
      markedNames mark rows := by
    intro mark
    rw [markedNames, List.filter_map]
    rfl
  have apart : (markedNames "nvme" rows).removeAll (markedNames "sd" rows) =
      markedNames "nvme" rows := by
    refine List.filter_eq_self.2 fun name listed => ?_
    obtain ⟨-, nvme⟩ := List.mem_filter.1 listed
    simp only [Bool.not_eq_true', List.contains_eq_mem, decide_eq_false_iff_not]
    intro also
    obtain ⟨-, sd⟩ := List.mem_filter.1 also
    obtain ⟨_, isNvme⟩ := List.isPrefixOf_iff_prefix.1 nvme
    obtain ⟨_, isSd⟩ := List.isPrefixOf_iff_prefix.1 sd
    rw [← isSd] at isNvme
    simp at isNvme
  simp only [diskNames, List.flatMap_cons, List.flatMap_nil, List.append_nil, marked,
    List.eraseDups_append, apart]

/-! ## Rows that are selected -/

/-- With a map above the device and no pseudo device, the devices are listed again. -/
theorem after_concernedRows {runner : Runner} {trace final : Trace} {id : String} {sorted : Bool}
    {rows listed : List DeviceRow}
    (noPseudo : ∀ row ∈ rows, ¬ row.mentionsBelow "emcpower" id = true)
    (someMap : ∃ row ∈ rows, row.mentionsBelow "mpath" id = true)
    (again : (deviceRows sorted).after runner trace = (.ok listed, final)) :
    (concernedRows id sorted rows).after runner trace =
      (.ok (rowsAt listed (mentionedOrAbove id listed)), final) := by
  have noPseudo : rows.filter (·.mentionsBelow pseudoMark id) = [] :=
    List.filter_eq_nil_iff.2 noPseudo
  have someMap : rows.any (·.mentionsBelow mapMark id) = true := List.any_eq_true.2 someMap
  simp only [concernedRows, noPseudo, someMap, List.isEmpty_nil, Bool.not_true, if_true]
  rw [if_neg (by decide), Exec.after_bind_of_ok _ _ _ again, DeviceRow.withParents_eq]
  rfl

/-- A device lister that tells its version, lists a multipath map above a device and no pseudo
device above it, and lists the devices again. -/
structure ListsMap (runner : Runner) (id : String) (version : Nat × Nat)
    (told first second : CommandOutput) : Prop where
  versionTold : LsblkVersion.parse told.stdoutText = .ok version
  answers : Exec.Answers runner []
    [(⟨"lsblk", ["-V"]⟩, told), (⟨"lsblk", ["-P"]⟩, first),
      (⟨"lsblk", listingArguments version⟩, second)]
  noPseudo : ∀ line ∈ Text.linesOf first.stdoutText, ¬ HasBelow "emcpower" id line
  someMap : ∃ line ∈ Text.linesOf first.stdoutText, HasBelow "mpath" id line

/-- The rows of a listing that mention a device or stand directly above one that does. -/
def selectedRows (id listing : String) : List DeviceRow :=
  rowsAt (DeviceRow.ofListing listing) (mentionedOrAbove id (DeviceRow.ofListing listing))

/-- Rows are selected exactly if a row mentions the device. -/
theorem selectedRows_eq_nil_iff (id listing : String) :
    selectedRows id listing = [] ↔
      ∀ row ∈ DeviceRow.ofListing listing, ¬ id.toList <:+: row.line.toList := by
  rw [List.eq_nil_iff_forall_not_mem, selectedRows]
  generalize DeviceRow.ofListing listing = rows
  constructor
  · intro nothing row listed mentions
    obtain ⟨i, here⟩ := List.mem_iff_getElem?.1 listed
    refine nothing row (DeviceRow.mem_rowsAt_iff.2 ⟨i, here, ?_⟩)
    have mentioned := DeviceRow.mentionedAt_iff.2 ⟨row, here, mentions⟩
    rw [mentionedOrAbove, mentioned, Bool.true_or]
  · intro unmentioned row selected
    obtain ⟨i, -, chosen⟩ := DeviceRow.mem_rowsAt_iff.1 selected
    have notAt : ∀ k, ¬ DeviceRow.mentionedAt id rows k = true := by
      intro k mentioned
      obtain ⟨other, here, mentions⟩ := DeviceRow.mentionedAt_iff.1 mentioned
      exact unmentioned other (List.mem_of_getElem? here) mentions
    rcases Bool.or_eq_true_iff.1 chosen with mentioned | mentioned
    · exact notAt i mentioned
    · exact notAt (i + 1) mentioned

/-- The three commands are run, and the rows that are selected decide what is told. -/
theorem volumeDevices_eq (paths : SysPaths) (t : HostTree) {id : String} {runner : Runner}
    {version : Nat × Nat} {told first second : CommandOutput} (notRoot : Path.cleaned id ≠ "/")
    (lists : ListsMap runner id version told first second)
    (plainNames : ∀ row ∈ selectedRows id second.stdoutText,
      ¬ Text.startsWith row.name "emcpower" = true) :
    let performed := (volumeDevices paths t id).perform runner
    performed.2.map CommandEvent.invocation =
        [⟨"lsblk", ["-V"]⟩, ⟨"lsblk", ["-P"]⟩, ⟨"lsblk", listingArguments version⟩] ∧
      performed.1 =
        let rows := selectedRows id second.stdoutText
        if rows.isEmpty then .error .deviceNotFound
        else .ok
          { disks := diskNames rows, map := mapName rows, mountPoint := firstMountPoint rows } := by
  obtain ⟨versionAnswer, toldWell, firstAnswer, firstWell, secondAnswer, secondWell, -⟩ :=
    lists.answers
  have accepted := cleanedPath_eq_ok_iff.2 ⟨notRoot, rfl⟩
  -- Both marks have an m, so no line with one of them is blank.
  have solid : ∀ mark, 'm' ∈ mark.toList → ((∃ row ∈ DeviceRow.ofListing first.stdoutText,
      row.mentionsBelow mark id = true) ↔ ∃ line ∈ Text.linesOf first.stdoutText,
        HasBelow mark id line) :=
    fun mark starts => exists_row_iff_of_hasBelow starts (by decide)
  have noPseudo : ∀ row ∈ DeviceRow.ofListing first.stdoutText,
      ¬ row.mentionsBelow "emcpower" id = true := by
    intro row listed below
    obtain ⟨line, isLine, hasBelow⟩ := (solid "emcpower" (by decide)).1 ⟨row, listed, below⟩
    exact lists.noPseudo line isLine hasBelow
  have someMap := (solid "mpath" (by decide)).2 lists.someMap
  have unnamed : named? pseudoMark (selectedRows id second.stdoutText) = none :=
    List.find?_eq_none.2 plainNames
  rw [listingArguments_eq] at secondAnswer ⊢
  have sorted := after_lsblkCanSort_eq_ok_iff.2
    ⟨told, version, versionAnswer, toldWell, lists.versionTold, rfl, rfl⟩
  have listed := (after_deviceRows_eq_ok_iff false).2 ⟨first, firstAnswer, firstWell, rfl, rfl⟩
  simp only [Bool.false_eq_true, if_false] at listed
  have again := (after_deviceRows_eq_ok_iff _).2 ⟨second, secondAnswer, secondWell, rfl, rfl⟩
  have selected := after_concernedRows noPseudo someMap again
  rw [← selectedRows] at selected
  simp only [Exec.perform_eq, volumeDevices, accepted]
  rw [Exec.after_bind_of_ok _ _ _ (Exec.after_check _ _ _), Exec.after_bind_of_ok _ _ _ sorted,
    Exec.after_bind_of_ok _ _ _ listed, Exec.after_bind_of_ok _ _ _ selected]
  by_cases nothing : (selectedRows id second.stdoutText).isEmpty = true
  · simp only [if_pos nothing]
    exact ⟨rfl, rfl⟩
  · simp only [if_neg nothing, unnamed]
    exact ⟨rfl, rfl⟩

/-- What is told of a volume from the rows that concern it: the disks once each, the SCSI disks
before the NVMe namespaces, the multipath map, and where the volume is mounted. -/
structure Describes (rows : List DeviceRow) (devices : VolumeDevices) : Prop where
  disks : ∃ scsi nvme, devices.disks = scsi ++ nvme ∧
    FirstAppearances (markedNames "sd" rows) scsi ∧
    FirstAppearances (markedNames "nvme" rows) nvme
  map : devices.map = (((rows.find? (Text.startsWith ·.name "mpath")).or
    (rows.find? (·.kind = "mpath"))).map (·.name)).getD ""
  pseudoDevice : devices.pseudoDevice = ""
  mountPoint : devices.mountPoint =
    ((rows.find? (·.mountPoint ≠ "")).map (·.mountPoint)).getD ""

theorem describes_devices (rows : List DeviceRow) :
    Describes rows
      { disks := diskNames rows, map := mapName rows, mountPoint := firstMountPoint rows } := by
  refine ⟨⟨_, _, diskNames_eq rows, firstAppearances_eraseDups _, firstAppearances_eraseDups _⟩,
    ?_, rfl, ?_⟩
  · dsimp only
    rw [mapName, named?, mapMark]
    cases rows.find? (Text.startsWith ·.name "mpath") with
    | none => rfl
    | some row => rfl
  · have same : (fun row : DeviceRow => decide (row.mountPoint ≠ "")) =
        fun row => !row.mountPoint.isEmpty := by
      funext row
      rw [decide_not, Bool.not_inj_iff, Bool.eq_iff_iff, decide_eq_true_iff, String.isEmpty_iff]
    rw [same]
    rfl

/-- With a multipath map above a device, no disk of the volume is lost. The version is asked for,
the devices are listed, and they are listed again, sorted by releases after 2.30. If no row of the
second listing mentions the device, it is not found; otherwise the volume is described by the rows
that mention the device or stand directly above one that does. -/
theorem volumeDevices_of_map (paths : SysPaths) (t : HostTree) (id : String) (runner : Runner)
    (version : Nat × Nat) (told first second : CommandOutput) (notRoot : Path.cleaned id ≠ "/")
    (lists : ListsMap runner id version told first second)
    (plainNames : ∀ row ∈ selectedRows id second.stdoutText,
      ¬ Text.startsWith row.name "emcpower" = true) :
    let performed := (volumeDevices paths t id).perform runner
    let rows := DeviceRow.ofListing second.stdoutText
    performed.2.map CommandEvent.invocation =
      [⟨"lsblk", ["-V"]⟩, ⟨"lsblk", ["-P"]⟩, ⟨"lsblk", listingArguments version⟩] ∧
    ((∀ row ∈ rows, ¬ id.toList <:+: row.line.toList) → performed.1 = .error .deviceNotFound) ∧
    ((∃ row ∈ rows, id.toList <:+: row.line.toList) → ∃ devices, performed.1 = .ok devices ∧
      Describes (selectedRows id second.stdoutText) devices) := by
  intro performed rows
  obtain ⟨asked, result⟩ := volumeDevices_eq paths t notRoot lists plainNames
  refine ⟨asked, fun unmentioned => ?_, fun ⟨row, listed, mentions⟩ => ?_⟩
  · have nothing := (selectedRows_eq_nil_iff id second.stdoutText).2 unmentioned
    rw [result, nothing]
    rfl
  · have something : ¬ (selectedRows id second.stdoutText).isEmpty = true := by
      rw [List.isEmpty_iff, selectedRows_eq_nil_iff]
      exact fun unmentioned => unmentioned row listed mentions
    exact ⟨_, result.trans (if_neg something), describes_devices _⟩

/-- A script whose device lister tells release 2.34 and then two listings. -/
def listingScript (first second : String) : Script :=
  { answers := [("lsblk", toldVersion), ("lsblk", shown first), ("lsblk", shown second)] }

theorem listsMap_listingScript {id first : String}
    (noPseudo : ∀ line ∈ Text.linesOf first, ¬ HasBelow "emcpower" id line)
    (someMap : ∃ line ∈ Text.linesOf first, HasBelow "mpath" id line) (second : String) :
    ListsMap (listingScript first second).runner id (2, 34) toldVersion (shown first)
      (shown second) where
  versionTold := parse_toldVersion
  answers := ⟨rfl, rfl, rfl, rfl, rfl, rfl, trivial⟩
  noPseudo := by rwa [stdoutText_shown]
  someMap := by rwa [stdoutText_shown]

/-- A map with two disks above it, listed as often as it has disks. -/
def twoPaths : String := "NAME=\"sdb\"\nNAME=\"mpatha\" 7:0\nNAME=\"sdc\"\nNAME=\"mpatha\" 7:0\n"

theorem selectedRows_twoPaths :
    selectedRows "7:0" (shown twoPaths).stdoutText =
      [{ name := "sdb", line := "NAME=\"sdb\"" },
        { name := "mpatha", line := "NAME=\"mpatha\" 7:0" },
        { name := "sdc", line := "NAME=\"sdc\"" },
        { name := "mpatha", line := "NAME=\"mpatha\" 7:0" }] := by
  rw [stdoutText_shown]
  decide +kernel

/-- Both disks of a map are told. -/
theorem both_paths_of_map :
    Path.cleaned "7:0" ≠ "/" ∧
    ListsMap (listingScript "mpatha 7:0" twoPaths).runner "7:0" (2, 34) toldVersion
      (shown "mpatha 7:0") (shown twoPaths) ∧
    (∀ row ∈ selectedRows "7:0" (shown twoPaths).stdoutText,
      ¬ Text.startsWith row.name "emcpower" = true) ∧
    ∃ devices, ((volumeDevices {} .empty "7:0").perform
        (listingScript "mpatha 7:0" twoPaths).runner).1 = .ok devices ∧
      "sdb" ∈ devices.disks ∧ "sdc" ∈ devices.disks ∧ devices.map = "mpatha" := by
  have lists : ListsMap (listingScript "mpatha 7:0" twoPaths).runner "7:0" (2, 34) toldVersion
      (shown "mpatha 7:0") (shown twoPaths) :=
    listsMap_listingScript (by decide +kernel) (by decide +kernel) twoPaths
  have notRoot : Path.cleaned "7:0" ≠ "/" := by decide +kernel
  have plainNames : ∀ row ∈ selectedRows "7:0" (shown twoPaths).stdoutText,
      ¬ Text.startsWith row.name "emcpower" = true := by
    rw [selectedRows_twoPaths]
    decide +kernel
  obtain ⟨-, -, described⟩ := volumeDevices_of_map {} .empty "7:0"
    (listingScript "mpatha 7:0" twoPaths).runner (2, 34) toldVersion (shown "mpatha 7:0")
    (shown twoPaths) notRoot lists plainNames
  have mentioned : ∃ row ∈ DeviceRow.ofListing (shown twoPaths).stdoutText,
      "7:0".toList <:+: row.line.toList := by
    rw [stdoutText_shown]
    decide +kernel
  obtain ⟨devices, isOk, describes⟩ := described mentioned
  obtain ⟨scsi, nvme, isSum, ofScsi, -⟩ := describes.disks
  rw [selectedRows_twoPaths] at describes ofScsi
  refine ⟨notRoot, lists, plainNames, devices, isOk, ?_, ?_, ?_⟩
  · rw [isSum, List.mem_append]
    exact Or.inl ((ofScsi.same "sdb").2 (by decide +kernel))
  · rw [isSum, List.mem_append]
    exact Or.inl ((ofScsi.same "sdc").2 (by decide +kernel))
  · rw [describes.map]
    decide +kernel

/-- A blank line is no row: a listing of one such line has a line with the empty identifier, and yet
the device is not found. -/
theorem blank_line_is_no_row :
    Path.cleaned "" ≠ "/" ∧
    ListsMap (listingScript "mpatha" "\n").runner "" (2, 34) toldVersion (shown "mpatha")
      (shown "\n") ∧
    (∀ row ∈ selectedRows "" (shown "\n").stdoutText,
      ¬ Text.startsWith row.name "emcpower" = true) ∧
    (∃ line ∈ Text.linesOf (shown "\n").stdoutText, "".toList <:+: line.toList) ∧
    ¬ ∃ devices, ((volumeDevices {} .empty "").perform
      (listingScript "mpatha" "\n").runner).1 = .ok devices := by
  have lists : ListsMap (listingScript "mpatha" "\n").runner "" (2, 34) toldVersion
      (shown "mpatha") (shown "\n") :=
    listsMap_listingScript (by decide +kernel) (by decide +kernel) "\n"
  have notRoot : Path.cleaned "" ≠ "/" := by decide +kernel
  have nothing : selectedRows "" (shown "\n").stdoutText = [] := by
    rw [stdoutText_shown]
    decide +kernel
  have plainNames : ∀ row ∈ selectedRows "" (shown "\n").stdoutText,
      ¬ Text.startsWith row.name "emcpower" = true := by
    rw [nothing]
    exact fun row listed => absurd listed List.not_mem_nil
  refine ⟨notRoot, lists, plainNames, ?_, ?_⟩
  · rw [stdoutText_shown]
    decide +kernel
  · rw [(volumeDevices_eq {} .empty notRoot lists plainNames).2, nothing]
    simp

end HostStorage
