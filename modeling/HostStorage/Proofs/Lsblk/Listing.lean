import HostStorage.Lsblk.Stack
import HostStorage.Proofs.Command.Execution
import HostStorage.Proofs.Lsblk.Row
import HostStorage.Proofs.Path.Guard
import HostStorage.Proofs.Text.Utf8

/-!
# Asking the device lister

The device lister is asked for its version and then for the devices. Each of the two succeeds
exactly when the command does and its output can be read; the rows of a listing are its lines that
are not blank.
-/
namespace HostStorage

theorem mem_ofListing_iff {listing : String} {row : DeviceRow} :
    row ∈ DeviceRow.ofListing listing ↔
      ∃ line ∈ Text.linesOf listing, Text.allBlank line.toList = false ∧
        row = DeviceRow.ofLine line := by
  simp only [DeviceRow.ofListing, List.mem_map, List.mem_filter, Bool.not_eq_true']
  constructor
  · rintro ⟨line, ⟨listed, written⟩, rfl⟩
    exact ⟨line, listed, written, rfl⟩
  · rintro ⟨line, listed, written, rfl⟩
    exact ⟨line, ⟨listed, written⟩, rfl⟩

/-- A line with something that is not blank is a row. -/
theorem exists_row_iff_of_hasBelow {mark id listing : String} {c : Char} (starts : c ∈ mark.toList)
    (solid : Text.isBlank c = false) :
    (∃ row ∈ DeviceRow.ofListing listing, row.mentionsBelow mark id = true) ↔
      ∃ line ∈ Text.linesOf listing, HasBelow mark id line := by
  constructor
  · rintro ⟨row, listed, below⟩
    obtain ⟨line, isLine, -, rfl⟩ := mem_ofListing_iff.1 listed
    exact ⟨line, isLine, (DeviceRow.mentionsBelow_iff mark id _).1 below⟩
  · rintro ⟨line, isLine, below⟩
    refine ⟨.ofLine line, mem_ofListing_iff.2 ⟨line, isLine, ?_, rfl⟩,
      (DeviceRow.mentionsBelow_iff mark id _).2 below⟩
    obtain ⟨before, between, after, -, whole⟩ := below
    rw [Bool.eq_false_iff, ne_eq, Text.allBlank, List.all_eq_true]
    intro blank
    have isBlank := blank c (by simp [whole, starts])
    rw [solid] at isBlank
    cases isBlank

/-- How devices are listed: releases after 2.30 sort them. -/
def listingArguments (version : Nat × Nat) : List String :=
  if 2 < version.1 ∨ version.1 = 2 ∧ 30 < version.2 then ["-Px", "MODE"] else ["-P"]

theorem listingArguments_eq (version : Nat × Nat) :
    listingArguments version =
      if LsblkVersion.canSort version then ["-Px", "MODE"] else ["-P"] := by
  have newer : LsblkVersion.canSort version = true ↔
      2 < version.1 ∨ version.1 = 2 ∧ 30 < version.2 := by
    simp only [LsblkVersion.canSort, Bool.or_eq_true, Bool.and_eq_true, decide_eq_true_eq,
      beq_iff_eq]
    rfl
  simp only [listingArguments, newer]

section

variable {runner : Runner} {trace final : Trace}

theorem after_lsblkCanSort_eq_ok_iff {sorted : Bool} :
    lsblkCanSort.after runner trace = (.ok sorted, final) ↔ ∃ told version,
      runner trace ⟨"lsblk", ["-V"]⟩ = .ok told ∧ told.success = true ∧
        LsblkVersion.parse told.stdoutText = .ok version ∧
        sorted = LsblkVersion.canSort version ∧
        final = trace ++ [.of runner trace ⟨"lsblk", ["-V"]⟩] := by
  simp only [lsblkCanSort, Exec.after_bind_eq_ok_iff, Exec.after_runChecked_eq_ok_iff,
    Exec.after_check, Exec.after_pure, Prod.mk.injEq, Except.ok.injEq]
  constructor
  · rintro ⟨told, _, ⟨answer, success, rfl⟩, version, _, ⟨parsed, rfl⟩, rfl, rfl⟩
    exact ⟨told, version, answer, success, parsed, rfl, rfl⟩
  · rintro ⟨told, version, answer, success, parsed, rfl, rfl⟩
    exact ⟨told, _, ⟨answer, success, rfl⟩, version, _, ⟨parsed, rfl⟩, rfl, rfl⟩

theorem after_deviceRows_eq_ok_iff (sorted : Bool) {rows : List DeviceRow} :
    (deviceRows sorted).after runner trace = (.ok rows, final) ↔ ∃ listing,
      let asks : Invocation := ⟨"lsblk", if sorted then ["-Px", "MODE"] else ["-P"]⟩
      runner trace asks = .ok listing ∧ listing.success = true ∧
        rows = DeviceRow.ofListing listing.stdoutText ∧
        final = trace ++ [.of runner trace asks] := by
  simp only [deviceRows, Exec.after_bind_eq_ok_iff, Exec.after_runChecked_eq_ok_iff,
    Exec.after_pure, Prod.mk.injEq, Except.ok.injEq]
  constructor
  · rintro ⟨listing, _, ⟨answer, success, rfl⟩, rfl, rfl⟩
    exact ⟨listing, answer, success, rfl, rfl⟩
  · rintro ⟨listing, answer, success, rfl, rfl⟩
    exact ⟨listing, _, ⟨answer, success, rfl⟩, rfl, rfl⟩

end

def shown (text : String) : CommandOutput := ⟨true, some 0, Utf8.bytes text, []⟩

@[simp] theorem stdoutText_shown (text : String) : (shown text).stdoutText = text :=
  Utf8.lossy_bytes text

/-- What release 2.34 tells of itself. -/
def toldVersion : CommandOutput := shown "lsblk from util-linux 2.34"

theorem parse_toldVersion : LsblkVersion.parse toldVersion.stdoutText = .ok (2, 34) := by
  have found : LsblkVersion.find? "lsblk from util-linux 2.34".toList =
      some (['2'], ['3', '4']) := by decide +kernel
  rw [toldVersion, stdoutText_shown, LsblkVersion.parse, found]
  rfl

end HostStorage
