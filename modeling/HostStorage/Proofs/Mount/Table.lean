import HostStorage.Mount.Table
import HostStorage.Proofs.Result

/-!
# Records of the mount table

The usual scan remembers the first entry that it kept for each source. What it remembers after some
lines is what a search of the kept entries so far finds (`Remembers`, kept by every line), so the
records can be told from the kept entries alone, without the memory: `mountRecords_usual_iff`.
-/
namespace HostStorage
namespace EntryScan

/-! ## What is kept -/

/-- The characters are the letters of a word, each in either case. -/
def Spells (word cs : List Char) : Prop :=
  List.Forall₂ (fun letter c => isLetter letter c = true) word cs

/-- The device file system, everything in user space, and network file systems with at most one
version digit. -/
def IsPseudoType (fsType : List Char) : Prop :=
  Spells ['d', 'e', 'v', 't', 'm', 'p', 'f', 's'] fsType ∨
  (∃ name rest, fsType = name ++ rest ∧ Spells ['f', 'u', 's', 'e', '.'] name ∧ '\n' ∉ rest) ∨
  ∃ name version, fsType = name ++ version ∧ Spells ['n', 'f', 's'] name ∧
    (version = [] ∨ ∃ digit, version = [digit] ∧ Text.isDecimalDigit digit = true)

/-- An entry is kept for its type or for a source that is a path. -/
def IsKept (e : MountEntry) : Prop :=
  IsPseudoType e.fsType.toList ∨ ['/'] <+: e.mountSource.toList

theorem afterWord?_eq_some_iff {word cs rest : List Char} :
    afterWord? word cs = some rest ↔ ∃ name, cs = name ++ rest ∧ Spells word name := by
  induction word generalizing cs with
  | nil => simp only [afterWord?, Spells, List.forall₂_nil_left_iff, Option.some.injEq,
      exists_eq_right, List.nil_append]
  | cons letter others ih =>
    cases cs with
    | nil =>
      refine ⟨nofun, ?_⟩
      rintro ⟨name, whole, spelt⟩
      cases spelt
      cases whole
    | cons c r =>
      rw [afterWord?]
      constructor
      · intro found
        split at found
        next same =>
          obtain ⟨name, rfl, spelt⟩ := ih.1 found
          exact ⟨c :: name, rfl, .cons same spelt⟩
        next => cases found
      · rintro ⟨name, whole, spelt⟩
        cases spelt with
        | cons same spelt =>
          cases whole
          rw [if_pos same]
          exact ih.2 ⟨_, rfl, spelt⟩

/-- What follows a word, found by reading it off. -/
theorem exists_spells_iff {word cs : List Char} {p : List Char → Prop} :
    (∃ name rest, cs = name ++ rest ∧ Spells word name ∧ p rest) ↔
      ∃ rest, afterWord? word cs = some rest ∧ p rest := by
  constructor
  · rintro ⟨name, rest, whole, spelt, holds⟩
    exact ⟨rest, afterWord?_eq_some_iff.2 ⟨name, whole, spelt⟩, holds⟩
  · rintro ⟨rest, found, holds⟩
    obtain ⟨name, whole, spelt⟩ := afterWord?_eq_some_iff.1 found
    exact ⟨name, rest, whole, spelt, holds⟩

theorem isPseudoType_iff (fsType : List Char) :
    isPseudoType fsType = true ↔ IsPseudoType fsType := by
  rw [isPseudoType, Bool.or_eq_true, Bool.or_eq_true, or_assoc, IsPseudoType, exists_spells_iff,
    exists_spells_iff]
  refine or_congr ?_ (or_congr ?_ ?_)
  · rw [beq_iff_eq, afterWord?_eq_some_iff]
    simp only [List.append_nil, exists_eq_left']
  · cases afterWord? ['f', 'u', 's', 'e', '.'] fsType with
    | none => simp
    | some rest =>
      simp only [List.all_eq_true, bne_iff_ne, Option.some.injEq, exists_eq_left']
      exact ⟨fun all listed => all '\n' listed rfl,
        fun absent c listed same => absent (same ▸ listed)⟩
  · cases afterWord? ['n', 'f', 's'] fsType with
    | none => simp
    | some version =>
      match version with
      | [] => simp
      | [digit] => simp
      | _ :: _ :: _ => simp

theorem keeps_iff (e : MountEntry) : keeps e = true ↔ IsKept e := by
  rw [keeps, Bool.or_eq_true, isPseudoType_iff, Text.startsWith, List.isPrefixOf_iff_prefix]
  rfl

instance : DecidablePred IsKept := fun e => decidable_of_iff _ (keeps_iff e)

/-! ## What is remembered -/

/-- The source of an entry that follows the given kept entries: its own, or the directory below the
first mount of that source. -/
def sourceAfter (before : List MountEntry) (e : MountEntry) : String :=
  match before.find? (·.mountSource == e.mountSource) with
  | none => e.mountSource
  | some first => Path.cleaned (first.mountPoint ++ "/" ++ e.root)

/-- The memory of a scan holds the first kept entry of each source. -/
def Remembers (kept : KeptEntries) (before : List MountEntry) : Prop :=
  ∀ source, kept.lookup source = before.find? (·.mountSource == source)

variable {kept : KeptEntries} {before : List MountEntry} {e : MountEntry}

theorem usual_of_not_isKept (dropped : ¬ IsKept e) (kept : KeptEntries) :
    usual e kept = .ok (none, kept) := by
  rw [usual, if_neg (by rwa [keeps_iff])]

/-- An entry that is added to the memory is found if its source was not seen before. -/
theorem Remembers.concat (remembers : Remembers kept before) (e : MountEntry) :
    Remembers (kept ++ [(e.mountSource, e)]) (before ++ [e]) := by
  intro source
  rw [List.lookup_append, List.find?_append, remembers source]
  congr 1
  by_cases same : e.mountSource = source
  · simp [same]
  · simp [same, Ne.symm same]

/-- A further entry of a source is found by no search. -/
theorem Remembers.concat_seen (remembers : Remembers kept before) {first : MountEntry}
    (seen : before.find? (·.mountSource == e.mountSource) = some first) :
    Remembers kept (before ++ [e]) := by
  intro source
  rw [List.find?_append, remembers source]
  by_cases same : e.mountSource = source
  · rw [← same, seen]
    rfl
  · simp [same]

/-- A kept entry becomes a record, and the memory goes on with it. -/
theorem usual_of_isKept (remembers : Remembers kept before) (keep : IsKept e) :
    ∃ after, usual e kept = .ok (some (record e (sourceAfter before e)), after) ∧
      Remembers after (before ++ [e]) := by
  rw [usual, if_pos ((keeps_iff e).2 keep), remembers, sourceAfter]
  cases found : before.find? (·.mountSource == e.mountSource) with
  | none => exact ⟨_, rfl, remembers.concat e⟩
  | some first => exact ⟨_, rfl, remembers.concat_seen found⟩

/-- The records of kept entries that follow other ones. -/
def recordsAfter (before kept : List MountEntry) : List MountRecord :=
  kept.mapIdx fun i e => record e (sourceAfter (before ++ kept.take i) e)

theorem recordsAfter_cons (before : List MountEntry) (e : MountEntry) (later : List MountEntry) :
    recordsAfter before (e :: later) =
      record e (sourceAfter before e) :: recordsAfter (before ++ [e]) later := by
  simp [recordsAfter, List.mapIdx_cons]

end EntryScan

/-! ## The whole table -/

open EntryScan

def writtenLines (lines : List String) : List String :=
  lines.filter fun line => !Text.allBlank line.toList

theorem writtenLines_cons (line : String) (rest : List String) :
    writtenLines (line :: rest) =
      if Text.allBlank line.toList then writtenLines rest else line :: writtenLines rest := by
  cases blank : Text.allBlank line.toList <;> simp [writtenLines, blank]

/-- The records of the lines after those that a scan remembers. -/
theorem mountRecordsFrom_usual {kept : KeptEntries} {before : List MountEntry}
    (remembers : Remembers kept before) (lines : List String) :
    mountRecordsFrom usual kept lines = ((writtenLines lines).mapM MountEntry.parse).map
      fun entries => recordsAfter before (entries.filter (IsKept ·)) := by
  induction lines generalizing kept before with
  | nil => rfl
  | cons line rest ih =>
    rw [mountRecordsFrom, writtenLines_cons]
    by_cases blank : Text.allBlank line.toList = true
    · rw [if_pos blank, if_pos blank]
      exact ih remembers
    · rw [if_neg blank, if_neg blank, List.mapM_cons]
      cases MountEntry.parse line with
      | error e => rfl
      | ok e =>
        simp only [bind, Except.bind]
        by_cases keep : IsKept e
        · obtain ⟨after, scanned, remembersAfter⟩ := usual_of_isKept remembers keep
          simp only [scanned, ih remembersAfter]
          cases (writtenLines rest).mapM MountEntry.parse with
          | error failure => rfl
          | ok entries =>
            have first : (e :: entries).filter (IsKept ·) = e :: entries.filter (IsKept ·) :=
              List.filter_cons_of_pos (by simpa using keep)
            simp only [pure, Except.pure, Except.map, first, recordsAfter_cons]
            rfl
        · simp only [usual_of_not_isKept keep, ih remembers]
          cases (writtenLines rest).mapM MountEntry.parse with
          | error failure => rfl
          | ok entries =>
            have first : (e :: entries).filter (IsKept ·) = entries.filter (IsKept ·) :=
              List.filter_cons_of_neg (by simpa using keep)
            simp only [pure, Except.pure, Except.map, first]
            rfl

/-- A table is refused for the first line that is no entry. Otherwise there is one record for each
kept entry, in the order of the lines, and its source depends on the kept entries before it only:
of several mounts of one source, all later ones lead to the first. -/
theorem mountRecords_usual_iff (table : String) :
    let lines := writtenLines (Text.linesOf table)
    (∀ failure, mountRecords EntryScan.usual table = .error failure ↔
      ∃ before line after, lines = before ++ line :: after ∧
        (∀ earlier ∈ before, ∃ e, MountEntry.parse earlier = .ok e) ∧
        MountEntry.parse line = .error failure) ∧
    ∀ records, mountRecords EntryScan.usual table = .ok records ↔
      ∃ entries, List.Forall₂ (fun line e => MountEntry.parse line = .ok e) lines entries ∧
        let kept := entries.filter (IsKept ·)
        records = kept.mapIdx fun i e =>
          { device := e.mountSource, path := e.mountPoint, source := sourceAfter (kept.take i) e,
            fsType := e.fsType, options := e.mountOptions } := by
  intro lines
  have nothing : Remembers [] [] := fun _ => rfl
  have run : mountRecords EntryScan.usual table = (lines.mapM MountEntry.parse).map
      fun entries => recordsAfter [] (entries.filter (IsKept ·)) :=
    mountRecordsFrom_usual nothing (Text.linesOf table)
  constructor
  · intro failure
    rw [← mapM_eq_error_iff, run]
    cases lines.mapM MountEntry.parse with
    | error e => simp [Except.map]
    | ok entries => simp [Except.map]
  · intro records
    simp only [← mapM_eq_ok_iff]
    rw [run]
    cases lines.mapM MountEntry.parse with
    | error e => simp [Except.map]
    | ok entries =>
      simp only [Except.map, Except.ok.injEq, exists_eq_left', eq_comm (a := records)]
      rfl

end HostStorage
