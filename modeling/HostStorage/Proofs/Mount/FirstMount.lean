import HostStorage.Proofs.Mount.Table
import HostStorage.Proofs.Path.Onward

/-!
# Sources below a first mount

A source that is mounted again is recorded as a directory below its first mount: the mount point of
the first with the root of the second behind it. The first mount need not show its source from the
root on, so what that directory is on the source is told by the root of the first with the root of
the second behind it (`through?_secondSource_of_climb`). It is the directory that is mounted the
second time only if the first shows the whole source, or the second goes up and comes down again
through what the first leaves out (`through?_secondSource_eq_root_iff`).
-/
namespace HostStorage

open HostStorage.Path (Name Place placeFrom walkOn)

namespace MountEntry

/-- The path on the source of an entry of what a path below its mount point leads to: the root of
the entry is put where the mount point stands. -/
def through? (f : MountEntry) (path : String) : Option String :=
  ((placeFrom [] f.mountPoint).isPrefixOf? (placeFrom [] path)).map fun below =>
    Path.cleaned (f.root ++ HostTree.pathOf below)

/-- The source recorded of an entry whose source was mounted before. -/
def secondSource (f e : MountEntry) : String := Path.cleaned (f.mountPoint ++ "/" ++ e.root)

variable {f e : MountEntry}

theorem placeFrom_secondSource (f e : MountEntry) :
    placeFrom [] (f.secondSource e) = (placeFrom [] f.mountPoint).take
      ((placeFrom [] f.mountPoint).length - Path.climb e.root) ++ placeFrom [] e.root := by
  rw [secondSource, Path.placeFrom_cleaned, Path.placeFrom_join, Path.walkOn_eq]

/-- What is read through a mount is a path from the root if the root of the mount is one. -/
theorem through?_eq_some_cleaned_iff {path directory : String}
    (absolute : Path.isAbsolute f.root = true) (absolute' : Path.isAbsolute directory = true) :
    f.through? path = some (Path.cleaned directory) ↔
      ∃ below, placeFrom [] path = placeFrom [] f.mountPoint ++ below ∧
        placeFrom [] directory = placeFrom [] f.root ++ below := by
  have read : ∀ below, placeFrom [] path = placeFrom [] f.mountPoint ++ below →
      (Path.cleaned (f.root ++ HostTree.pathOf below) = Path.cleaned directory ↔
        placeFrom [] directory = placeFrom [] f.root ++ below) := by
    intro below reached
    have properNames : ∀ name ∈ below, Path.IsName name := by
      intro name listed
      have inPath : name ∈ walkOn [] path := by
        rw [← Path.placeFrom_nil, reached]
        exact List.mem_append_right _ listed
      exact (Path.mem_walkOn inPath).resolve_left List.not_mem_nil
    rw [Path.cleaned_eq_cleaned_iff (Path.isAbsolute_append absolute _) absolute',
      Path.placeFrom_append_pathOf f.root properNames, eq_comm]
  rw [through?, Option.map_eq_some_iff]
  constructor
  · intro found
    obtain ⟨below, isBelow, same⟩ := found
    have reached := (List.isPrefixOf?_eq_some_iff_append_eq.1 isBelow).symm
    exact ⟨below, reached, (read below reached).1 same⟩
  · intro found
    obtain ⟨below, reached, same⟩ := found
    have isBelow := List.isPrefixOf?_eq_some_iff_append_eq.2 reached.symm
    exact ⟨below, isBelow, (read below reached).2 same⟩

/-- Read through the first mount, the recorded source is the directory that is mounted exactly if
the root of the first mount is what the second one climbs over, and comes down through again. -/
theorem through?_secondSource_eq_root_iff (absolute : Path.isAbsolute f.root = true)
    (absolute' : Path.isAbsolute e.root = true) :
    f.through? (f.secondSource e) = some (Path.cleaned e.root) ↔
      placeFrom [] f.root = (placeFrom [] f.mountPoint).drop
        ((placeFrom [] f.mountPoint).length - Path.climb e.root) ∧
        placeFrom [] f.root <+: placeFrom [] e.root := by
  rw [through?_eq_some_cleaned_iff absolute absolute', placeFrom_secondSource]
  generalize placeFrom [] f.mountPoint = point
  generalize placeFrom [] f.root = root
  generalize placeFrom [] e.root = root'
  generalize point.length - Path.climb e.root = stays
  constructor
  · intro found
    obtain ⟨below, reached, rfl⟩ := found
    rw [← List.append_assoc] at reached
    have whole : point.take stays ++ root = point.take stays ++ point.drop stays := by
      rw [List.append_cancel_right reached, List.take_append_drop]
    exact ⟨List.append_cancel_left whole, List.prefix_append root below⟩
  · intro found
    obtain ⟨rfl, below, rfl⟩ := found
    refine ⟨below, ?_, rfl⟩
    rw [← List.append_assoc, List.take_append_drop]

/-- A root that does not climb is read below the root of the first mount. -/
theorem through?_secondSource_of_climb (absolute : Path.isAbsolute f.root = true)
    (level : Path.climb e.root = 0) :
    f.through? (f.secondSource e) = some (Path.cleaned (f.root ++ "/" ++ e.root)) := by
  have joined : Path.isAbsolute (f.root ++ "/" ++ e.root) = true := by
    rw [String.append_assoc]
    exact Path.isAbsolute_append absolute _
  rw [through?_eq_some_cleaned_iff absolute joined, placeFrom_secondSource, Path.placeFrom_join,
    Path.walkOn_eq, level]
  exact ⟨placeFrom [] e.root, by simp⟩

end MountEntry

open EntryScan

/-- The records of a table are those of the kept ones of its entries. -/
theorem mountRecords_usual_of_entries {table : String} {entries : List MountEntry}
    (parsed : (writtenLines (Text.linesOf table)).mapM MountEntry.parse = .ok entries) :
    mountRecords usual table = .ok (recordsAfter [] (entries.filter (IsKept ·))) := by
  have nothing : Remembers [] [] := fun _ => rfl
  rw [mountRecords, mountRecordsFrom_usual nothing, parsed]
  rfl

/-- A table that is accepted has an entry on every line. -/
theorem exists_entries_of_accepted {table : String} {records : List MountRecord}
    (accepted : mountRecords usual table = .ok records) :
    ∃ entries, (writtenLines (Text.linesOf table)).mapM MountEntry.parse = .ok entries ∧
      records = recordsAfter [] (entries.filter (IsKept ·)) := by
  cases parsed : (writtenLines (Text.linesOf table)).mapM MountEntry.parse with
  | error failure =>
    have nothing : Remembers [] [] := fun _ => rfl
    rw [mountRecords, mountRecordsFrom_usual nothing, parsed] at accepted
    cases accepted
  | ok entries =>
    rw [mountRecords_usual_of_entries parsed] at accepted
    cases accepted
    exact ⟨entries, rfl, rfl⟩

/-- The record of an entry whose source was kept before. -/
theorem getElem?_recordsAfter_of_seen {kept : List MountEntry} {i : Nat} {e f : MountEntry}
    (here : kept[i]? = some e)
    (first : (kept.take i).find? (·.mountSource == e.mountSource) = some f) :
    (recordsAfter [] kept)[i]? = some (record e (f.secondSource e)) := by
  rw [recordsAfter, List.getElem?_mapIdx, here, Option.map_some, List.nil_append, sourceAfter,
    first]
  rfl

/-- In a table that is accepted, the record of an entry whose source was kept before has the mount
point of the first such entry with its own root behind it as its source. If the root does not go
above its start, the source is, read through the first mount, the root of that mount with the own
root behind it; this is the directory that is mounted exactly if the first mount shows its source
from the root. In general it is that directory exactly if the root of the first mount is the end of
its mount point over which the own root climbs, and the own root comes down through it again. -/
theorem source_below_first_mount {table : String} {records : List MountRecord}
    (accepted : mountRecords usual table = .ok records) :
    ∃ entries, List.Forall₂ (fun line e => MountEntry.parse line = .ok e)
        (writtenLines (Text.linesOf table)) entries ∧
      let kept := entries.filter (IsKept ·)
      records.length = kept.length ∧
      ∀ i e f, kept[i]? = some e → (kept.take i).find? (·.mountSource == e.mountSource) = some f →
        Path.isAbsolute f.root = true → Path.isAbsolute e.root = true →
        ∃ r, records[i]? = some r ∧ r.device = e.mountSource ∧ r.path = e.mountPoint ∧
          r.source = Path.cleaned (f.mountPoint ++ "/" ++ e.root) ∧
          (Path.climb e.root = 0 →
            f.through? r.source = some (Path.cleaned (f.root ++ "/" ++ e.root)) ∧
            (f.through? r.source = some (Path.cleaned e.root) ↔ Path.cleaned f.root = "/")) ∧
          let point := placeFrom [] f.mountPoint
          (f.through? r.source = some (Path.cleaned e.root) ↔
            placeFrom [] f.root = point.drop (point.length - Path.climb e.root) ∧
              placeFrom [] f.root <+: placeFrom [] e.root) := by
  obtain ⟨entries, parsed, rfl⟩ := exists_entries_of_accepted accepted
  refine ⟨entries, mapM_eq_ok_iff.1 parsed, by simp [recordsAfter], ?_⟩
  intro i e f here first absolute absolute'
  have namesRoot := MountEntry.through?_secondSource_eq_root_iff absolute absolute'
  refine ⟨record e (f.secondSource e), getElem?_recordsAfter_of_seen here first, rfl, rfl, rfl, ?_,
    namesRoot⟩
  intro level
  refine ⟨MountEntry.through?_secondSource_of_climb absolute level, namesRoot.trans ?_⟩
  have atRoot : Path.cleaned f.root = "/" ↔ placeFrom [] f.root = [] := by
    have root : Path.cleaned "/" = "/" := by decide
    have slash : Path.isAbsolute "/" = true := by decide
    rw [← root, Path.cleaned_eq_cleaned_iff absolute slash]
    rfl
  rw [atRoot, level, Nat.sub_zero, List.drop_length]
  constructor
  · intro whole
    exact whole.1
  · intro whole
    exact ⟨whole, by rw [whole]; exact List.nil_prefix⟩

/-- The third mount of a volume is below the first one, which shows it from the root, and the source
that is recorded leads there. -/
theorem third_mount_below_first :
    let f : MountEntry := ⟨"40", "28", "8:16", "/", "/a", ["rw"], [], "xfs", "/dev/sdb", []⟩
    let e : MountEntry := { f with mountId := "42", root := "/x/y", mountPoint := "/c" }
    ∃ records r,
      mountRecords usual "40 28 8:16 / /a rw - xfs /dev/sdb
41 28 8:16 /x /b rw - xfs /dev/sdb
42 28 8:16 /x/y /c rw - xfs /dev/sdb\n" = .ok records ∧
      records[2]? = some r ∧ r.path = "/c" ∧ r.source = "/a/x/y" ∧
      f.through? r.source = some (Path.cleaned e.root) := by
  intro f e
  let table := "40 28 8:16 / /a rw - xfs /dev/sdb
41 28 8:16 /x /b rw - xfs /dev/sdb
42 28 8:16 /x/y /c rw - xfs /dev/sdb\n"
  let second : MountEntry := { f with mountId := "41", root := "/x", mountPoint := "/b" }
  have read : (writtenLines (Text.linesOf table)).mapM MountEntry.parse = .ok [f, second, e] :=
    eq_ok_of_toOption (by decide +kernel)
  have all : [f, second, e].filter (IsKept ·) = [f, second, e] := by decide +kernel
  have accepted : mountRecords usual table = .ok (recordsAfter [] [f, second, e]) := by
    rw [mountRecords_usual_of_entries read, all]
  obtain ⟨entries, parsed, -, below⟩ := source_below_first_mount accepted
  rw [← mapM_eq_ok_iff, read] at parsed
  cases parsed
  rw [all] at below
  obtain ⟨r, here, -, path, source, level, -⟩ := below 2 e f rfl rfl (by decide) (by decide)
  have noClimb : Path.climb e.root = 0 := by decide
  have fromRoot : Path.cleaned f.root = "/" := by decide
  refine ⟨_, r, accepted, here, path, ?_, (level noClimb).2.2 fromRoot⟩
  rw [source]
  decide

/-- A first mount that shows a directory of a volume is taken for one that shows the whole volume,
and a root that leads above its start for a directory beside the first mount: neither source that is
recorded is, read through the first mount, the directory that is mounted. -/
theorem directory_mount_misread :
    let f : MountEntry := ⟨"40", "28", "8:16", "/d", "/m/a", ["rw"], [], "xfs", "/dev/sdb", []⟩
    let e : MountEntry := { f with mountId := "41", root := "/d/x", mountPoint := "/m/b" }
    let f' : MountEntry := { f with
      mountId := "42", majorMinor := "8:32", root := "/", mountPoint := "/m/c",
      mountSource := "/dev/sdc" }
    let e' : MountEntry := { f' with mountId := "43", root := "/../x", mountPoint := "/m/d" }
    let table := "40 28 8:16 /d /m/a rw - xfs /dev/sdb
41 28 8:16 /d/x /m/b rw - xfs /dev/sdb
42 28 8:32 / /m/c rw - xfs /dev/sdc
43 28 8:32 /../x /m/d rw - xfs /dev/sdc\n"
    (writtenLines (Text.linesOf table)).mapM MountEntry.parse = .ok [f, e, f', e'] ∧
    mountRecords usual table =
      .ok [record f "/dev/sdb", record e "/m/a/d/x", record f' "/dev/sdc", record e' "/m/x"] ∧
    Path.isAbsolute f.mountPoint = true ∧ Path.cleaned f.mountPoint = f.mountPoint ∧
    Path.isAbsolute f'.mountPoint = true ∧ Path.cleaned f'.mountPoint = f'.mountPoint ∧
    Path.isAbsolute f.root = true ∧ Path.isAbsolute e.root = true ∧
    Path.isAbsolute f'.root = true ∧ Path.isAbsolute e'.root = true ∧
    f.through? "/m/a/d/x" = some "/d/d/x" ∧ Path.cleaned e.root = "/d/x" ∧
    f.through? "/m/a/x" = some "/d/x" ∧
    f'.through? "/m/x" = none ∧ Path.cleaned e'.root = "/x" ∧
    f'.through? "/m/c/x" = some "/x" := by
  intro f e f' e' table
  have parsed : (writtenLines (Text.linesOf table)).mapM MountEntry.parse = .ok [f, e, f', e'] :=
    eq_ok_of_toOption (by decide +kernel)
  have recorded : recordsAfter [] ([f, e, f', e'].filter (IsKept ·)) =
      [record f "/dev/sdb", record e "/m/a/d/x", record f' "/dev/sdc", record e' "/m/x"] := by
    decide +kernel
  refine ⟨parsed, ?_, by decide +kernel⟩
  rw [mountRecords_usual_of_entries parsed, recorded]

end HostStorage
