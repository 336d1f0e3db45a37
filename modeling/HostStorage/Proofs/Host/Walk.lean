import HostStorage.Proofs.Host.Appending
import HostStorage.Proofs.Host.Names
import HostStorage.Proofs.Path.Walk
import HostStorage.Proofs.Text.Pieces
import HostStorage.Proofs.Text.Utf8

/-!
# How a walk goes

A way with more behind it is walked to its end and on from there (`walk_append`), so an entry of a
directory is reached by the path of the directory and its own name (`IsDirectoryAt.status_below`).
A walk fails in a few ways only (`exists_of_status_eq_error`).
-/
namespace HostStorage

open HostStorage.Path (Name Place)

namespace HostTree

/-! ## Failures -/

def walkFailures : List Errno := [.noEntry, .nameTooLong, .linkLoop, .notDirectory]

/-- A walk fails at a name that is missing or too long, after too many links, or at what is no
directory. -/
theorem exists_of_walk_eq_error {t : HostTree} {follow : Bool} {reach : Option Nat} {links : Nat}
    {here : Place} {way : List Hop} {f : IoFailure}
    (failed : t.walk follow reach links here way = .error f) : ∃ e ∈ walkFailures, f = .os e := by
  have fails : ∀ {e : Errno}, e ∈ walkFailures →
      (Except.error (.os e) : Except IoFailure Place) = .error f →
        ∃ e ∈ walkFailures, f = .os e := by
    rintro e listed same
    cases same
    exact ⟨e, listed, rfl⟩
  fun_induction walk t follow reach links here way with
  | case1 | case7 => cases failed
  | case2 | case5 | case6 | case8 | case11 => exact fails (by decide) failed
  | case3 links here rest directory ih | case4 links here rest directory ih => exact ih failed
  | case9 here rest directory name short target link further left ih => exact ih failed
  | case10 links here rest directory name short n noLink there ih => exact ih failed

theorem way_of_nul {path : String} (nul : '\x00' ∈ path.toList) : way path = .error .nulInPath := by
  rw [way, if_pos]
  exact List.any_eq_true.2 ⟨'\x00', nul, rfl⟩

theorem way_of_notMem {path : String} (nulFree : '\x00' ∉ path.toList) :
    way path = if path = "" then .error (.os .noEntry) else .ok (hops path) := by
  have plain : path.toList.any (·.toNat == 0) = false := by
    refine List.any_eq_false.2 fun c listed zero => nulFree ?_
    have isNul : c = '\x00' := Char.toNat_inj.1 (beq_iff_eq.1 zero)
    exact isNul ▸ listed
  rw [way, plain]
  by_cases empty : path = ""
  · simp [empty]
  · simp [empty]

theorem status_of_nul (t : HostTree) (follow : Bool) {path : String} (nul : '\x00' ∈ path.toList) :
    t.status follow path = .error .nulInPath := by
  simp only [status, resolve, way_of_nul nul, bind, Except.bind]

/-- What stands at a path without NUL cannot be told if the walk fails or the path is too long. -/
theorem exists_of_status_eq_error {t : HostTree} {follow : Bool} {path : String} {f : IoFailure}
    (nulFree : '\x00' ∉ path.toList) (failed : t.status follow path = .error f) :
    ∃ e ∈ walkFailures, f = .os e := by
  simp only [status, resolve, way_of_notMem nulFree, bind_eq_error_iff] at failed
  rcases failed with (missing | ⟨steps, -, unresolved⟩) | ⟨place, -, absent⟩
  · split at missing
    · cases missing
      exact ⟨.noEntry, by decide, rfl⟩
    · cases missing
  · split at unresolved
    · cases unresolved
      exact ⟨.nameTooLong, by decide, rfl⟩
    · exact exists_of_walk_eq_error unresolved
  · unfold found at absent
    split at absent
    · cases absent
    · cases absent
      exact ⟨.noEntry, by decide, rfl⟩

/-! ## A walk in two parts -/

/-- A way with more behind it is walked to its end and on from there, with the links that are left.
Its own last link is followed, since the walk goes on. -/
theorem walk_append (t : HostTree) (follow : Bool) (reach : Option Nat) (links : Nat) (here : Place)
    (way : List Hop) {rest : List Hop} (more : rest ≠ []) :
    ∃ left, t.walk follow reach links here (way ++ rest) =
      t.walk true reach links here way >>= fun place => t.walk follow reach left place rest := by
  fun_induction walk t true reach links here way with
  | case1 links here => exact ⟨links, rfl⟩
  | case2 links here hop way absent =>
    refine ⟨0, ?_⟩
    rw [List.cons_append, walk.eq_def]
    simp only [absent]
    rfl
  | case3 links here way directory ih | case4 links here way directory ih =>
    obtain ⟨left, ih⟩ := ih
    refine ⟨left, ?_⟩
    rw [← ih, List.cons_append]
    simp only [walk, directory]
  | case5 links here way directory name long =>
    refine ⟨0, ?_⟩
    rw [List.cons_append]
    simp only [walk, directory, if_pos long]
    rfl
  | case6 links here way directory name short absent =>
    refine ⟨0, ?_⟩
    rw [List.cons_append]
    simp only [walk, directory, if_neg short, absent]
    rfl
  | case7 links here way directory name short target link last => simp at last
  | case8 here way directory name short target link further =>
    refine ⟨0, ?_⟩
    have goesOn : ¬ ((way ++ rest).isEmpty && !follow) = true := by simp [more]
    rw [List.cons_append]
    simp only [walk, directory, if_neg short, link, if_neg goesOn]
    rfl
  | case9 here way directory name short target link further left ih =>
    obtain ⟨left, ih⟩ := ih
    refine ⟨left, ?_⟩
    have goesOn : ¬ ((way ++ rest).isEmpty && !follow) = true := by simp [more]
    rw [← ih, List.cons_append]
    simp only [walk, directory, if_neg short, link, if_neg goesOn, List.append_assoc]
  | case10 links here way directory name short n noLink there ih =>
    obtain ⟨left, ih⟩ := ih
    refine ⟨left, ?_⟩
    rw [← ih, List.cons_append]
    simp only [walk, directory, if_neg short, there]
  | case11 links here hop way n noDirectory there =>
    refine ⟨0, ?_⟩
    cases n with
    | directory => exact absurd rfl noDirectory
    | _ =>
      rw [List.cons_append, walk.eq_def]
      simp only [there]
      rfl

/-- The way to a directory leads there also without a final separator. -/
theorem walk_of_stay {t : HostTree} {links : Nat} {here place : Place} {way : List Hop}
    (reached : t.walk true none links here (way ++ [.stay]) = .ok place) :
    t.walk true none links here way = .ok place := by
  have more : [Hop.stay] ≠ [] := by simp
  obtain ⟨left, goesOn⟩ := t.walk_append true none links here way more
  rw [goesOn, bind_eq_ok_iff] at reached
  obtain ⟨before, walked, stays⟩ := reached
  rw [walk.eq_def] at stays
  cases there : t.node? before with
  | none => simp [there] at stays
  | some n =>
    cases n with
    | directory =>
      simp only [there, walk] at stays
      rw [walked, stays]
    | _ => simp [there] at stays

/-! ## Paths of entries -/

/-- A text that can be asked for as a path. -/
structure IsPath (path : String) : Prop where
  nulFree : '\x00' ∉ path.toList
  notEmpty : path ≠ ""
  short : (Utf8.bytes path).length < pathLimit

theorem IsPath.resolve_eq {path : String} (isPath : IsPath path) (t : HostTree) (follow : Bool) :
    t.resolve follow path = t.walk follow none maxLinks [] (hops path) := by
  have short := Nat.not_le.2 isPath.short
  simp only [resolve, way_of_notMem isPath.nulFree, if_neg isPath.notEmpty, if_neg short, bind,
    Except.bind]

theorem isPath_of_resolve {t : HostTree} {follow : Bool} {path : String} {place : Place}
    (reached : t.resolve follow path = .ok place) : IsPath path := by
  have nulFree : '\x00' ∉ path.toList := by
    intro nul
    simp [resolve, way_of_nul nul, bind, Except.bind] at reached
  simp only [resolve, way_of_notMem nulFree, bind_eq_ok_iff] at reached
  obtain ⟨steps, isWay, walked⟩ := reached
  split at isWay
  next => cases isWay
  next notEmpty =>
    split at walked
    next => cases walked
    next short => exact ⟨nulFree, notEmpty, Nat.not_le.1 short⟩

theorem notMem_below {c : Char} {base name : String} (separator : c ≠ '/')
    (inBase : c ∉ base.toList) (inName : c ∉ name.toList) : c ∉ (Path.below base name).toList := by
  unfold Path.below
  split
  · exact inName
  · split
    · simp [inBase, inName]
    · simp [inBase, inName, separator]

structure IsEntryName (name : String) : Prop where
  isName : Path.IsName name.toList
  nulFree : '\x00' ∉ name.toList
  fits : (Utf8.encode name.toList).length ≤ maxName

instance (name : String) : Decidable (IsEntryName name) :=
  decidable_of_iff (Path.IsName name.toList ∧ '\x00' ∉ name.toList ∧
      (Utf8.encode name.toList).length ≤ maxName)
    ⟨fun ⟨a, b, c⟩ => ⟨a, b, c⟩, fun ⟨a, b, c⟩ => ⟨a, b, c⟩⟩

/-- A directory at the end of a path, all of whose entries have names that an entry may have. -/
structure IsDirectoryAt (t : HostTree) (directory : String) (place : Place) : Prop where
  reached : t.resolve true directory = .ok place
  isDirectory : t.node? place = some .directory
  properNames : ∀ name : String, (t.node? (place ++ [name.toList])).isSome → IsEntryName name

theorem mem_entryNames_iff {t : HostTree} {place : Place} {name : Name} :
    name ∈ (t.entriesAt place).rootNames ↔ (t.node? (place ++ [name])).isSome := by
  rw [mem_rootNames_iff, node?_entriesAt t place (by simp)]

/-- The names that are listed of a directory are those of its entries. -/
theorem exists_names_of_directory {t : HostTree} {directory : String} {place : Place}
    (reached : t.resolve true directory = .ok place)
    (isDirectory : t.node? place = some .directory) :
    ∃ names, t.names directory = .ok names ∧
      ∀ name : String, name ∈ names ↔ (t.node? (place ++ [name.toList])).isSome := by
  refine ⟨(t.childNames place).map String.ofList, ?_, fun name => ?_⟩
  · have found : t.found place = .ok .directory := (found_eq_ok_iff t place).2 isDirectory
    simp only [names, reached, found, bind, Except.bind]
  · rw [← mem_entryNames_iff, childNames, List.mem_map]
    simp only [List.mem_mergeSort]
    constructor
    · intro told
      obtain ⟨entry, listed, rfl⟩ := told
      simpa using listed
    · intro listed
      exact ⟨name.toList, listed, by simp⟩

/-- The names of a directory are proper if each of those in its list is. -/
theorem IsDirectoryAt.of_forall_mem {t : HostTree} {directory : String} {place : Place}
    (reached : t.resolve true directory = .ok place) (isDirectory : t.node? place = some .directory)
    (proper : ∀ name ∈ (t.entriesAt place).rootNames, IsEntryName (String.ofList name)) :
    t.IsDirectoryAt directory place := by
  refine ⟨reached, isDirectory, fun name there => ?_⟩
  have entry := proper name.toList (mem_entryNames_iff.2 there)
  rwa [String.ofList_toList] at entry

theorem isAbsolute_of_isName {name : String} (isName : Path.IsName name.toList) :
    Path.isAbsolute name = false := by
  rw [Bool.eq_false_iff, ne_eq, Path.isAbsolute_iff]
  intro absolute
  exact isName.whole (List.mem_of_mem_head? absolute)

/-- Entries of one directory with the same path have the same name. -/
theorem below_inj {directory first second : String} (isFirst : Path.IsName first.toList)
    (isSecond : Path.IsName second.toList)
    (same : Path.below directory first = Path.below directory second) : first = second := by
  simp only [Path.below, isAbsolute_of_isName isFirst, isAbsolute_of_isName isSecond] at same
  split at same
  next absolute => cases absolute
  next =>
    split at same
    · simpa [← String.toList_inj] using same
    · simpa [← String.toList_inj] using same

theorem length_bytes_below_le (directory name : String) :
    (Utf8.bytes (Path.below directory name)).length ≤
      (Utf8.bytes directory).length + 1 + (Utf8.encode name.toList).length := by
  unfold Path.below Utf8.bytes
  split
  · omega
  · split
    · simp only [String.toList_append, Utf8.encode_append, List.length_append]
      omega
    · simp only [String.toList_append, Utf8.encode_append, List.length_append]
      change _ + 1 + _ ≤ _
      omega

theorem hops_append_cons (before after : String) :
    hops (before ++ "/" ++ after) = hops before ++ hops after := by
  simp only [hops, String.toList_append]
  rw [List.append_assoc]
  change List.map Hop.ofPiece (Text.fields _ (before.toList ++ '/' :: after.toList)) = _
  rw [Text.fields_append_cons (by rfl), List.map_append]

theorem hops_of_isName {name : String} (isName : Path.IsName name.toList) :
    hops name = [.down name.toList] := by
  have whole : ∀ c ∈ name.toList, (c == '/') = false := by
    intro c listed
    apply beq_eq_false_iff_ne.2
    rintro rfl
    exact isName.whole listed
  rw [hops, Text.fields_of_forall_not whole]
  simp [Hop.ofPiece, isName.notEmpty, isName.notHere, isName.notUp]

/-- The way to an entry is the way to its directory, without a final separator, and the entry's
name. -/
theorem hops_below {directory name : String} (notEmpty : directory ≠ "")
    (isName : Path.IsName name.toList) :
    ∃ way, hops (Path.below directory name) = way ++ [.down name.toList] ∧
      (hops directory = way ∨ hops directory = way ++ [.stay]) := by
  rw [Path.below, isAbsolute_of_isName isName, ← hops_of_isName isName]
  by_cases ends : Text.endsWith directory "/" = true
  · obtain ⟨before, whole⟩ := List.isSuffixOf_iff_suffix.1 ends
    have whole : directory = String.ofList before ++ "/" := by
      rw [← String.toList_inj, ← whole]
      simp
    refine ⟨hops (String.ofList before), ?_, Or.inr ?_⟩
    · simp only [ends, Bool.or_true, if_true]
      rw [whole, ← hops_append_cons]
      rfl
    · have closed := hops_append_cons (String.ofList before) ""
      rw [String.append_empty, ← whole] at closed
      exact closed
  · refine ⟨hops directory, ?_, Or.inl rfl⟩
    simp [notEmpty, ends, hops_append_cons]

/-- A directory is entered by a name that some entry has. -/
theorem walk_down {t : HostTree} {place : Place} (directory : t.node? place = some .directory)
    {name : String} (fits : (Utf8.encode name.toList).length ≤ maxName) (left : Nat) :
    t.walk false none left place [.down name.toList] =
      (t.found (place ++ [name.toList])).map fun _ => place ++ [name.toList] := by
  have short : ¬ isTooLong none place name.toList = true := by
    simp only [isTooLong, Option.any_none, Bool.or_false, decide_eq_true_eq]
    omega
  simp only [walk, directory, if_neg short, found]
  cases t.node? (place ++ [name.toList]) with
  | none => rfl
  | some n => cases n <;> rfl

namespace IsDirectoryAt

variable {t : HostTree} {directory : String} {place : Place}
  (isAt : t.IsDirectoryAt directory place)
include isAt

/-- The path of an entry can be asked for, if it is not too long. -/
theorem isPath_below {name : String} (entry : IsEntryName name)
    (short : (Utf8.bytes (Path.below directory name)).length < pathLimit) :
    IsPath (Path.below directory name) := by
  have isPath := isPath_of_resolve isAt.reached
  obtain ⟨way, wayBelow, -⟩ := hops_below isPath.notEmpty entry.isName
  refine ⟨notMem_below (by decide) isPath.nulFree entry.nulFree, ?_, short⟩
  intro empty
  have last := congrArg List.getLast? wayBelow
  simp [empty, hops, Text.fields, Hop.ofPiece] at last

/-- The path of a directory that leaves room for a name leaves room for every entry. -/
theorem isPath_of_room (room : (Utf8.bytes directory).length + 1 + maxName < pathLimit)
    {name : String} (entry : IsEntryName name) : IsPath (Path.below directory name) := by
  have bound := length_bytes_below_le directory name
  have fits := entry.fits
  exact isAt.isPath_below entry (by omega)

/-- What stands at the path of an entry is the entry. -/
theorem status_below {name : String} (entry : IsEntryName name)
    (isPathBelow : IsPath (Path.below directory name)) :
    t.status false (Path.below directory name) = t.found (place ++ [name.toList]) := by
  have isPath := isPath_of_resolve isAt.reached
  obtain ⟨way, wayBelow, wayTo⟩ := hops_below isPath.notEmpty entry.isName
  have walked : t.walk true none maxLinks [] way = .ok place := by
    have reached := isAt.reached
    rw [isPath.resolve_eq] at reached
    rcases wayTo with same | closed
    · rwa [same] at reached
    · rw [closed] at reached
      exact walk_of_stay reached
  have more : [Hop.down name.toList] ≠ [] := by simp
  obtain ⟨left, goesOn⟩ := t.walk_append false none maxLinks [] way more
  rw [walked] at goesOn
  change _ = t.walk false none left place _ at goesOn
  rw [status, isPathBelow.resolve_eq, wayBelow, goesOn, walk_down isAt.isDirectory entry.fits]
  cases there : t.found (place ++ [name.toList]) with
  | error f => rfl
  | ok n => exact there

/-- What stands at the path of an entry is told exactly if that is a path and the entry is there. -/
theorem status_below_eq_ok_iff {name : String} (entry : IsEntryName name) {n : Node} :
    t.status false (Path.below directory name) = .ok n ↔
      IsPath (Path.below directory name) ∧ t.node? (place ++ [name.toList]) = some n := by
  constructor
  · intro told
    have reached := told
    rw [status, bind_eq_ok_iff] at reached
    obtain ⟨_, reached, -⟩ := reached
    have isPath := isPath_of_resolve reached
    rw [isAt.status_below entry isPath, found_eq_ok_iff] at told
    exact ⟨isPath, told⟩
  · rintro ⟨isPath, stands⟩
    rw [isAt.status_below entry isPath, found_eq_ok_iff]
    exact stands

theorem exists_names : ∃ names, t.names directory = .ok names ∧
    ∀ name : String, name ∈ names ↔ (t.node? (place ++ [name.toList])).isSome :=
  exists_names_of_directory isAt.reached isAt.isDirectory

end IsDirectoryAt

end HostTree
end HostStorage
