import HostStorage.Proofs.Host.Entries
import HostStorage.Proofs.Host.Plain
import HostStorage.Proofs.Volume.Identity
import HostStorage.Volume.BlockDevices

/-!
# Block devices of a volume

A block device is found for a volume exactly if a file that can be read tells the volume, and the
mark of a name makes no difference. NVMe namespaces are found whatever the case of the letters of
the name; SCSI disks are compared letter by letter, so that each is found for one way of writing
the name only (`volumeBlockDevices_of_hexName`).
-/
namespace HostStorage

open HostStorage.Path (Place)

/-- A block device tells a volume: an NVMe namespace by an identifier of the volume, a SCSI disk by
the name, with or without a mark, between blanks. -/
inductive TellsVolume (paths : SysPaths) (t : HostTree) (wwn device : String) : Prop where
  | identifier (told : String) (nvme : "nvme".toList <+: device.toList)
      (read : t.contentText (Path.below (Path.below paths.sysBlock device) "wwid") = .ok told)
      (identifies : Wwn.identifies told wwn = true)
  | name (told : String) (scsi : ¬ "nvme".toList <+: device.toList)
      (read : t.contentText
        (Path.below (Path.below (Path.below paths.sysBlock device) "device") "wwid") = .ok told)
      (isName : Text.trimmed told = wwn ∨ Text.trimmed told = "naa." ++ wwn)

/-! ## Spellings of a name -/

namespace Wwn

/-- A name that has nothing but hexadecimal digits, in letters of either case. -/
def IsHexName (wwn : String) : Prop := ∀ c ∈ wwn.toList, c.toLower ∈ hexDigits

instance (wwn : String) : Decidable (IsHexName wwn) :=
  decidable_of_iff (wwn.toList.all (hexDigits.contains ·.toLower) = true) (by simp [IsHexName])

variable {nguid wwn other : String}

theorem IsHexName.plain (hex : IsHexName wwn) : ∀ c ∈ wwn.toList, c.toNat < 0x80 :=
  fun c listed => Text.plain_of_toLower (isLegible_of_mem_hexDigits (hex c listed)).1

theorem IsHexName.notMem_dot (hex : IsHexName wwn) : '.' ∉ wwn.toList :=
  fun listed => absurd (hex '.' listed) (by decide)

theorem IsHexName.of_mem_map (hex : IsHexName wwn) :
    ∀ d ∈ wwn.toList.map Char.toLower, d ∈ hexDigits := by
  intro d listed
  obtain ⟨c, isDigit, rfl⟩ := List.mem_map.1 listed
  exact hex c isDigit

/-- What has the letters of a hexadecimal name is one: the Kelvin sign comes down to no digit. -/
theorem IsHexName.of_sameLetters (hex : IsHexName wwn) (same : Text.SameLetters other wwn) :
    IsHexName other := by
  have small : Text.lowercase other.toList = wwn.toList.map Char.toLower := by
    rw [same.lowercase_eq, Text.lowercase_eq_map hex.plain]
  have plain : ∀ d ∈ wwn.toList.map Char.toLower, d.toNat < 0x80 :=
    fun d listed => (isLegible_of_mem_hexDigits (hex.of_mem_map d listed)).1
  have noK : 'k' ∉ wwn.toList.map Char.toLower :=
    fun listed => absurd (hex.of_mem_map 'k' listed) (by decide)
  have forms := Text.isSmallForm_lowercase (small ▸ plain)
  have letters := (Text.eq_iff_map_toLower forms plain noK).1 small
  intro c listed
  have digit : c.toLower ∈ other.toList.map Char.toLower := List.mem_map_of_mem listed
  rw [letters] at digit
  exact hex.of_mem_map _ digit

theorem IsHexName.without_mark (hex : IsHexName wwn) : Text.without "naa." wwn = wwn := by
  have dot : '.' ∈ "naa.".toList := by decide
  rw [Text.without, Text.withoutStart_of_notMem dot hex.notMem_dot, String.ofList_toList]

theorem IsHexName.nameDigits_mark (hex : IsHexName wwn) :
    nameDigits ("naa." ++ wwn) = nameDigits wwn := by
  have dot : '.' ∈ nameMark := by decide
  have noDot : '.' ∉ wwn.toList.map Char.toLower :=
    fun listed => absurd (hex.of_mem_map '.' listed) (by decide)
  have marked : ∀ c ∈ ("naa." ++ wwn).toList, c.toNat < 0x80 := by
    intro c listed
    rw [String.toList_append] at listed
    exact (List.mem_append.1 listed).elim plain_of_mem_nameMark (hex.plain c)
  have bare : nameDigits wwn = wwn.toList.map Char.toLower := by
    rw [nameDigits, Text.lowercase_eq_map hex.plain]
    exact Text.withoutStart_of_notMem dot noDot
  rw [bare, nameDigits, Text.lowercase_eq_map marked, String.toList_append, List.map_append]
  exact Text.withoutStart_append nameMark _

theorem identifies_congr (same : nameDigits other = nameDigits wwn) :
    identifies nguid other = identifies nguid wwn := by
  simp only [identifies, same]

theorem nameDigits_congr (same : Text.SameLetters other wwn) :
    nameDigits other = nameDigits wwn := by
  rw [nameDigits, nameDigits, same.lowercase_eq]

/-- Blanks around an identifier make no difference, trimmed or not. -/
theorem identifies_trimmed : identifies (Text.trimmed nguid) wwn = identifies nguid wwn := by
  have same : identifierDigits (Text.trimmed nguid) = identifierDigits nguid := by
    rw [identifierDigits, identifierDigits, Text.trimmed, String.toList_ofList, Text.trim_trim]
  simp only [identifies, same]

end Wwn

/-! ## Devices -/

variable {paths : SysPaths} {t : HostTree} {wwn other device : String}

theorem isNvme_iff : isNvme device = true ↔ "nvme".toList <+: device.toList := by
  rw [isNvme, Text.startsWith, List.isPrefixOf_iff_prefix]

theorem belongsTo_iff : belongsTo paths t wwn device = true ↔ ∃ told,
    t.contentText (volumeNameFile paths device) = .ok told ∧
      namesVolume wwn device (Text.trimmed told) = true := by
  unfold belongsTo
  cases t.contentText (volumeNameFile paths device) <;> simp

/-- What a device at a plain place tells is trimmed and compared. -/
theorem belongsTo_of_file {place : Place} {content : Bytes} {told : String}
    (plain : t.Plain place) (stands : t.node? place = some (.file content))
    (steps : HostTree.way (volumeNameFile paths device) = .ok (.stay :: place.map .down))
    (short : (Utf8.bytes (volumeNameFile paths device)).length < HostTree.pathLimit)
    (read : Utf8.read? content = some told) (wwn : String) :
    belongsTo paths t wwn device = namesVolume wwn device (Text.trimmed told) := by
  unfold belongsTo
  simp only [plain.contentText_eq _ steps short stands read]

/-- A device belongs to a volume of a hexadecimal name if it tells the volume. -/
theorem belongsTo_iff_tellsVolume (hex : Wwn.IsHexName wwn) :
    belongsTo paths t wwn device = true ↔ TellsVolume paths t wwn device := by
  rw [belongsTo_iff]
  unfold volumeNameFile namesVolume
  by_cases kind : isNvme device = true
  · simp only [if_pos kind, Wwn.identifies_trimmed]
    constructor
    · intro belongs
      obtain ⟨told, read, identifies⟩ := belongs
      exact .identifier told (isNvme_iff.1 kind) read identifies
    · intro tells
      cases tells with
      | identifier told _ read identifies => exact ⟨told, read, identifies⟩
      | name _ scsi => exact absurd (isNvme_iff.1 kind) scsi
  · simp only [if_neg kind, hex.without_mark, beq_iff_eq, Text.without_eq_iff hex.without_mark]
    constructor
    · intro belongs
      obtain ⟨told, read, isName⟩ := belongs
      exact .name told (mt isNvme_iff.2 kind) read isName
    · intro tells
      cases tells with
      | identifier _ nvme => exact absurd (isNvme_iff.2 nvme) kind
      | name told _ read isName => exact ⟨told, read, isName⟩

/-- The mark of a name makes no difference to any device. -/
theorem namesVolume_mark (hex : Wwn.IsHexName wwn) (device told : String) :
    namesVolume ("naa." ++ wwn) device told = namesVolume wwn device told := by
  rw [namesVolume, namesVolume, Wwn.identifies_congr hex.nameDigits_mark, Text.without_append,
    hex.without_mark]

theorem belongsTo_mark (hex : Wwn.IsHexName wwn) :
    belongsTo paths t ("naa." ++ wwn) = belongsTo paths t wwn := by
  funext device
  rw [Bool.eq_iff_iff, belongsTo_iff, belongsTo_iff]
  simp only [namesVolume_mark hex]

/-- The case of the letters of a name makes no difference to an NVMe namespace. -/
theorem belongsTo_of_sameLetters (same : Text.SameLetters other wwn)
    (nvme : "nvme".toList <+: device.toList) :
    belongsTo paths t other device = belongsTo paths t wwn device := by
  rw [Bool.eq_iff_iff, belongsTo_iff, belongsTo_iff]
  simp only [namesVolume, if_pos (isNvme_iff.2 nvme),
    Wwn.identifies_congr (Wwn.nameDigits_congr same)]

/-- A SCSI disk belongs to one spelling of a hexadecimal name at most. -/
theorem eq_of_belongsTo (hex : Wwn.IsHexName wwn) (alsoHex : Wwn.IsHexName other)
    (scsi : ¬ "nvme".toList <+: device.toList) (belongs : belongsTo paths t wwn device = true)
    (alsoBelongs : belongsTo paths t other device = true) : other = wwn := by
  obtain ⟨told, read, names⟩ := belongsTo_iff.1 belongs
  obtain ⟨again, alsoRead, alsoNames⟩ := belongsTo_iff.1 alsoBelongs
  rw [read] at alsoRead
  cases alsoRead
  have kind : ¬ isNvme device = true := mt isNvme_iff.1 scsi
  rw [namesVolume, if_neg kind, beq_iff_eq, hex.without_mark] at names
  rw [namesVolume, if_neg kind, beq_iff_eq, alsoHex.without_mark] at alsoNames
  exact alsoNames.symm.trans names

theorem volumeBlockDevices_of_names {names : List String}
    (told : t.names paths.sysBlock = .ok names) (wwn : String) :
    volumeBlockDevices paths t wwn = .ok (names.filter (belongsTo paths t wwn)) := by
  simp only [volumeBlockDevices, told, Except.mapError, bind, Except.bind, pure, Except.pure]

theorem volumeBlockDevices_of_unlisted {f : IoFailure}
    (untold : t.names paths.sysBlock = .error f) (wwn : String) :
    volumeBlockDevices paths t wwn = .error (.unreadable paths.sysBlock f) := by
  simp only [volumeBlockDevices, untold, Except.mapError, bind, Except.bind]

/-- For a hexadecimal name, exactly the entries that tell the volume are found, the same ones with
the mark and without it. In letters of another case the name finds the same NVMe namespaces, and a
SCSI disk only if no letter is different. There is no answer only if the block devices cannot be
listed. -/
theorem volumeBlockDevices_of_hexName {wwn : String} (hex : Wwn.IsHexName wwn) (paths : SysPaths)
    (t : HostTree) :
    (∀ f, t.names paths.sysBlock = .error f → ∀ spelling,
      volumeBlockDevices paths t spelling = .error (.unreadable paths.sysBlock f)) ∧
    ∀ names, t.names paths.sysBlock = .ok names →
      ∃ devices, volumeBlockDevices paths t wwn = .ok devices ∧
        volumeBlockDevices paths t ("naa." ++ wwn) = .ok devices ∧
        (∀ device, device ∈ devices ↔
          t.HasEntry paths.sysBlock device ∧ TellsVolume paths t wwn device) ∧
        ∀ other, Text.SameLetters other wwn →
          ∃ others, volumeBlockDevices paths t other = .ok others ∧
            (∀ device, "nvme".toList <+: device.toList → (device ∈ others ↔ device ∈ devices)) ∧
            ∀ device ∈ devices, device ∈ others →
              "nvme".toList <+: device.toList ∨ other = wwn := by
  refine ⟨fun f untold => volumeBlockDevices_of_unlisted untold, fun names told => ?_⟩
  refine ⟨names.filter (belongsTo paths t wwn), volumeBlockDevices_of_names told wwn, ?_, ?_, ?_⟩
  · rw [volumeBlockDevices_of_names told, belongsTo_mark hex]
  · intro device
    rw [List.mem_filter, HostTree.mem_names_iff told, belongsTo_iff_tellsVolume hex]
  · intro other same
    refine ⟨names.filter (belongsTo paths t other), volumeBlockDevices_of_names told other, ?_, ?_⟩
    · intro device nvme
      rw [List.mem_filter, List.mem_filter, belongsTo_of_sameLetters same nvme]
    · intro device listed alsoListed
      by_cases nvme : "nvme".toList <+: device.toList
      · exact Or.inl nvme
      · exact Or.inr (eq_of_belongsTo hex (hex.of_sameLetters same) nvme
          (List.mem_filter.1 listed).2 (List.mem_filter.1 alsoListed).2)

/-- A volume behind an NVMe namespace and a SCSI disk, the disk with the mark. -/
def volumeOnTwoPaths : HostTree :=
  let identifier : HostTree := .entry "wwid".toList
    (.file (Utf8.bytes "eui.1111a2222b3d44448ccf096800a1b23c\n")) .empty .empty
  let name : HostTree := .entry "wwid".toList
    (.file (Utf8.bytes "naa.68ccf098001111a2222b3d4444a1b23c\n")) .empty .empty
  let devices : HostTree := .entry "nvme0n1".toList .directory identifier
    (.entry "sda".toList .directory (.entry "device".toList .directory name .empty) .empty)
  .entry "sys".toList .directory (.entry "block".toList .directory devices .empty) .empty

theorem names_volumeOnTwoPaths :
    volumeOnTwoPaths.names (SysPaths.sysBlock {}) = .ok ["nvme0n1", "sda"] := by
  have plain : volumeOnTwoPaths.Plain ["sys".toList, "block".toList] :=
    ⟨by decide, by decide, .directory, rfl, by simp⟩
  exact (HostTree.names_eq_ok_iff _ _ _).2
    ⟨_, plain.resolve_eq _ (by decide +kernel) (by decide +kernel) true, rfl, .refl _,
      by decide +kernel⟩

theorem belongsTo_nvme0n1 (wwn : String) :
    belongsTo {} volumeOnTwoPaths wwn "nvme0n1" =
      namesVolume wwn "nvme0n1" "eui.1111a2222b3d44448ccf096800a1b23c" := by
  have stands : volumeOnTwoPaths.node?
      ["sys".toList, "block".toList, "nvme0n1".toList, "wwid".toList] =
        some (.file (Utf8.bytes "eui.1111a2222b3d44448ccf096800a1b23c\n")) := by decide +kernel
  have bare : Text.trimmed "eui.1111a2222b3d44448ccf096800a1b23c\n" =
      "eui.1111a2222b3d44448ccf096800a1b23c" := by decide +kernel
  rw [← bare]
  exact belongsTo_of_file ⟨by decide, by decide, _, stands, by simp⟩ stands (by decide +kernel)
    (by decide +kernel) (by decide +kernel) wwn

theorem belongsTo_sda (wwn : String) :
    belongsTo {} volumeOnTwoPaths wwn "sda" =
      namesVolume wwn "sda" "naa.68ccf098001111a2222b3d4444a1b23c" := by
  have stands : volumeOnTwoPaths.node?
      ["sys".toList, "block".toList, "sda".toList, "device".toList, "wwid".toList] =
        some (.file (Utf8.bytes "naa.68ccf098001111a2222b3d4444a1b23c\n")) := by decide +kernel
  have bare : Text.trimmed "naa.68ccf098001111a2222b3d4444a1b23c\n" =
      "naa.68ccf098001111a2222b3d4444a1b23c" := by decide +kernel
  rw [← bare]
  exact belongsTo_of_file ⟨by decide, by decide, _, stands, by simp⟩ stands (by decide +kernel)
    (by decide +kernel) (by decide +kernel) wwn

theorem volumeBlockDevices_volumeOnTwoPaths (wwn : String) :
    volumeBlockDevices {} volumeOnTwoPaths wwn =
      .ok (["nvme0n1", "sda"].filter fun device => namesVolume wwn device
        (if isNvme device then "eui.1111a2222b3d44448ccf096800a1b23c"
          else "naa.68ccf098001111a2222b3d4444a1b23c")) := by
  have kinds : isNvme "nvme0n1" = true ∧ isNvme "sda" = false := by decide +kernel
  rw [volumeBlockDevices_of_names names_volumeOnTwoPaths]
  simp [List.filter_cons, belongsTo_nvme0n1, belongsTo_sda, kinds]

/-- The name of the volume finds the namespace and the disk, with the mark too. -/
theorem mark_finds_both_paths :
    let small := "68ccf098001111a2222b3d4444a1b23c"
    Wwn.IsHexName small ∧
    volumeBlockDevices {} volumeOnTwoPaths small = .ok ["nvme0n1", "sda"] ∧
    volumeBlockDevices {} volumeOnTwoPaths ("naa." ++ small) = .ok ["nvme0n1", "sda"] := by
  intro small
  have hex : Wwn.IsHexName small := by decide +kernel
  obtain ⟨-, listed⟩ := volumeBlockDevices_of_hexName hex {} volumeOnTwoPaths
  obtain ⟨devices, found, marked, -, -⟩ := listed _ names_volumeOnTwoPaths
  have both : devices = ["nvme0n1", "sda"] := by
    rw [volumeBlockDevices_volumeOnTwoPaths] at found
    exact (Except.ok.inj found).symm.trans (by decide +kernel)
  rw [both] at found marked
  exact ⟨hex, found, marked⟩

/-- In capitals the name of the volume finds the namespace, and not the disk. -/
theorem capitals_find_no_disk :
    let small := "68ccf098001111a2222b3d4444a1b23c"
    let capital := "68CCF098001111A2222B3D4444A1B23C"
    Wwn.IsHexName small ∧ Text.SameLetters capital small ∧
    volumeBlockDevices {} volumeOnTwoPaths small = .ok ["nvme0n1", "sda"] ∧
    volumeBlockDevices {} volumeOnTwoPaths capital = .ok ["nvme0n1"] := by
  intro small capital
  refine ⟨by decide +kernel, by decide +kernel, ?_, ?_⟩
  · exact (volumeBlockDevices_volumeOnTwoPaths small).trans (congrArg _ (by decide +kernel))
  · exact (volumeBlockDevices_volumeOnTwoPaths capital).trans (congrArg _ (by decide +kernel))

end HostStorage
