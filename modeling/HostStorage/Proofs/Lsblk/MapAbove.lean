import HostStorage.Command.Script
import HostStorage.Proofs.Lsblk.Listing

/-!
# The map that is told of a device

The map of a device is looked for among the rows that mention the device anywhere, with the rows
directly below them. So what is told is the first map near a mention (`mapAbove_eq_ok_iff`). It is a
map of the device itself where no row of another device mentions it (`IsMapNear.isMapOf`), and may
be the map of another device where one does (`longerName`).
-/
namespace HostStorage

open DeviceRow (rowsAt mentionedAt mentionedOrBelow)

/-- A map at a position of a listing that mentions a device or stands directly below a row that
does. -/
structure IsMapNear (device : String) (rows : List DeviceRow) (i : Nat) (row : DeviceRow) :
    Prop where
  here : rows[i]? = some row
  isMap : row.kind = "mpath"
  near : mentionedOrBelow device rows i = true

def IsFirstMapNear (device : String) (rows : List DeviceRow) (i : Nat) (row : DeviceRow) : Prop :=
  IsMapNear device rows i row ∧ ∀ k < i, ∀ other, ¬ IsMapNear device rows k other

/-- The name of the first map near a mention of a device, empty if there is none. -/
def NamesFirstMap (device : String) (rows : List DeviceRow) (name : String) : Prop :=
  (∃ i row, IsFirstMapNear device rows i row ∧ name = row.name) ∨
    (∀ i row, ¬ IsMapNear device rows i row) ∧ name = ""

/-- The name of a map that is a device or stands directly below the row with exactly its name. -/
def IsMapOf (device : String) (rows : List DeviceRow) (name : String) : Prop :=
  ∃ i row, rows[i]? = some row ∧ row.kind = "mpath" ∧ row.name = name ∧
    (row.name = device ∨ ∃ k above, i = k + 1 ∧ rows[k]? = some above ∧ above.name = device)

section

variable {device : String} {rows : List DeviceRow}

theorem isMapNear_iff {i : Nat} {row : DeviceRow} :
    IsMapNear device rows i row ↔
      rows[i]? = some row ∧ mentionedOrBelow device rows i = true ∧
        (row.kind == "mpath") = true := by
  rw [beq_iff_eq]
  exact ⟨fun ⟨here, isMap, near⟩ => ⟨here, near, isMap⟩,
    fun ⟨here, near, isMap⟩ => ⟨here, isMap, near⟩⟩

/-- The first map is found among the rows that mention the device and those directly below them. -/
theorem namesFirstMap_iff {name : String} :
    NamesFirstMap device rows name ↔
      name = (((DeviceRow.withChildren device 0 rows).find? (·.kind == "mpath")).map (·.name)).getD
        "" := by
  rw [DeviceRow.withChildren_eq, NamesFirstMap]
  have first : ∀ row, (rowsAt rows (mentionedOrBelow device rows)).find? (·.kind == "mpath") =
      some row ↔ ∃ i, IsFirstMapNear device rows i row := by
    intro row
    simp only [DeviceRow.find?_rowsAt_eq_some_iff, IsFirstMapNear, isMapNear_iff]
  cases found : (rowsAt rows (mentionedOrBelow device rows)).find? (·.kind == "mpath") with
  | some row =>
    obtain ⟨i, isFirst⟩ := (first row).1 found
    constructor
    · rintro (⟨k, other, alsoFirst, rfl⟩ | ⟨nowhere, -⟩)
      · have same := (first other).2 ⟨k, alsoFirst⟩
        rw [found] at same
        cases same
        rfl
      · exact absurd isFirst.1 (nowhere i row)
    · intro isName
      exact Or.inl ⟨i, row, isFirst, isName⟩
  | none =>
    have nowhere : ∀ i row, ¬ IsMapNear device rows i row := by
      intro i row near
      have listed := DeviceRow.mem_rowsAt_iff.2 ⟨i, near.here, near.near⟩
      exact List.find?_eq_none.1 found row listed (beq_iff_eq.2 near.isMap)
    constructor
    · rintro (⟨i, row, isFirst, -⟩ | ⟨-, isEmpty⟩)
      · exact absurd isFirst.1 (nowhere i row)
      · exact isEmpty
    · intro isEmpty
      exact Or.inr ⟨nowhere, isEmpty⟩

/-- Where no row of another device mentions a device, the first map near a mention is a map of the
device. -/
theorem IsMapNear.isMapOf {i : Nat} {row : DeviceRow} (near : IsMapNear device rows i row)
    (own : ∀ row ∈ rows, device.toList <:+: row.line.toList → row.name = device) :
    IsMapOf device rows row.name := by
  refine ⟨i, row, near.here, near.isMap, rfl, ?_⟩
  have named : ∀ k, mentionedAt device rows k = true →
      ∃ other, rows[k]? = some other ∧ other.name = device := by
    intro k mentioned
    obtain ⟨other, here, mentions⟩ := DeviceRow.mentionedAt_iff.1 mentioned
    exact ⟨other, here, own other (List.mem_of_getElem? here) mentions⟩
  rcases Bool.or_eq_true_iff.1 near.near with itself | below
  · obtain ⟨other, here, isDevice⟩ := named i itself
    cases near.here.symm.trans here
    exact Or.inl isDevice
  · obtain ⟨later, mentioned⟩ := Bool.and_eq_true_iff.1 below
    obtain ⟨above, here, isDevice⟩ := named (i - 1) mentioned
    have next : i = i - 1 + 1 := by
      have := of_decide_eq_true later
      omega
    exact Or.inr ⟨i - 1, above, next, here, isDevice⟩

end

/-- What is told as the map of a device, when the device lister tells its version and lists the
devices. -/
theorem mapAbove_eq_ok_iff {device name : String} {runner : Runner} :
    ((mapAbove device).perform runner).1 = .ok name ↔ Path.cleaned device ≠ "/" ∧
      ∃ told version listing, LsblkVersion.parse told.stdoutText = .ok version ∧
        Exec.Answers runner []
          [(⟨"lsblk", ["-V"]⟩, told), (⟨"lsblk", listingArguments version⟩, listing)] ∧
        NamesFirstMap device (DeviceRow.ofListing listing.stdoutText) name := by
  rw [Exec.perform_eq_ok_iff]
  simp only [mapAbove, Exec.after_bind_eq_ok_iff, Exec.after_check, Prod.mk.injEq,
    cleanedPath_eq_ok_iff, after_lsblkCanSort_eq_ok_iff, after_deviceRows_eq_ok_iff,
    Exec.after_pure, Except.ok.injEq, listingArguments_eq, namesFirstMap_iff]
  constructor
  · rintro ⟨final, _, _, ⟨⟨notRoot, -⟩, rfl⟩, sorted, _,
      ⟨told, version, answer, success, parsed, rfl, rfl⟩, rows, _,
      ⟨listing, listed, listedWell, rfl, rfl⟩, isName, -⟩
    exact ⟨notRoot, told, version, listing, parsed,
      ⟨answer, success, listed, listedWell, trivial⟩, isName.symm⟩
  · rintro ⟨notRoot, told, version, listing, parsed, ⟨answer, success, listed, listedWell, -⟩,
      isName⟩
    exact ⟨_, _, _, ⟨⟨notRoot, rfl⟩, rfl⟩, _, _, ⟨told, version, answer, success, parsed, rfl, rfl⟩,
      _, _, ⟨listing, listed, listedWell, rfl, rfl⟩, isName.symm, rfl⟩

/-- What is told as the map of a device is the first map near a mention of the device in the
listing, so whether it is a map of that device is a matter of this one row. It is one wherever no
row of another device mentions the device. -/
theorem mapAbove_tells_first_map (device : String) (runner : Runner) :
    (∀ name, ((mapAbove device).perform runner).1 = .ok name ↔ Path.cleaned device ≠ "/" ∧
      ∃ told version listing, LsblkVersion.parse told.stdoutText = .ok version ∧
        Exec.Answers runner []
          [(⟨"lsblk", ["-V"]⟩, told), (⟨"lsblk", listingArguments version⟩, listing)] ∧
        NamesFirstMap device (DeviceRow.ofListing listing.stdoutText) name) ∧
    ∀ rows, ((∀ name, NamesFirstMap device rows name → name ≠ "" → IsMapOf device rows name) ↔
        ∀ i row, IsFirstMapNear device rows i row → row.name ≠ "" → IsMapOf device rows row.name) ∧
      ((∀ row ∈ rows, device.toList <:+: row.line.toList → row.name = device) →
        ∀ name, NamesFirstMap device rows name → name ≠ "" → IsMapOf device rows name) := by
  refine ⟨fun name => mapAbove_eq_ok_iff, fun rows => ⟨⟨?_, ?_⟩, ?_⟩⟩
  · intro sound i row isFirst named
    exact sound row.name (Or.inl ⟨i, row, isFirst, rfl⟩) named
  · rintro sound name (⟨i, row, isFirst, rfl⟩ | ⟨-, isEmpty⟩) named
    · exact sound i row isFirst named
    · exact absurd isEmpty named
  · rintro own name (⟨i, row, isFirst, rfl⟩ | ⟨-, isEmpty⟩) named
    · exact isFirst.1.isMapOf own
    · exact absurd isEmpty named

/-- A listing in which the name of one disk starts with that of another. -/
def longerName : String :=
  "NAME=\"sda\" TYPE=\"disk\"\nNAME=\"sdaa\" TYPE=\"disk\"\nNAME=\"mpathb\" TYPE=\"mpath\"\n"

theorem ofListing_longerName :
    DeviceRow.ofListing (shown longerName).stdoutText =
      [{ name := "sda", kind := "disk", line := "NAME=\"sda\" TYPE=\"disk\"" },
        { name := "sdaa", kind := "disk", line := "NAME=\"sdaa\" TYPE=\"disk\"" },
        { name := "mpathb", kind := "mpath", line := "NAME=\"mpathb\" TYPE=\"mpath\"" }] := by
  rw [stdoutText_shown]
  decide +kernel

/-- The map below `sdaa` is told for `sda`, which has none. -/
theorem map_of_longer_name :
    ((mapAbove "sda").perform (Script.runner
      { answers := [("lsblk", toldVersion), ("lsblk", shown longerName)] })).1 = .ok "mpathb" ∧
    "mpathb" ≠ "" ∧
      ¬ IsMapOf "sda" (DeviceRow.ofListing (shown longerName).stdoutText) "mpathb" := by
  refine ⟨mapAbove_eq_ok_iff.2 ⟨by decide +kernel, toldVersion, (2, 34), shown longerName,
    parse_toldVersion, ⟨rfl, rfl, rfl, rfl, trivial⟩, namesFirstMap_iff.2 ?_⟩, by decide, ?_⟩
  · rw [ofListing_longerName]
    decide +kernel
  · rw [ofListing_longerName]
    rintro ⟨i, row, here, isMap, -, itself | ⟨k, above, rfl, before, isDevice⟩⟩
    · match i with
      | 0 | 1 =>
        cases here
        exact absurd isMap (by decide)
      | 2 =>
        cases here
        exact absurd itself (by decide)
      | _ + 3 => cases here
    · match k with
      | 0 =>
        cases here
        exact absurd isMap (by decide)
      | 1 =>
        cases before
        exact absurd isDevice (by decide)
      | _ + 2 => cases here

end HostStorage
