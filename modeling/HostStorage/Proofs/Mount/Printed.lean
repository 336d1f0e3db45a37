import HostStorage.Mount.Printed
import HostStorage.Path.Join
import HostStorage.Proofs.Result
import HostStorage.Proofs.Text.Pieces

/-!
# Reading a print of mounts

A line names the device and the path with ` on ` between them. The device has no blanks, so it ends
at the first ` on ` of the line; the reader takes the last one that has text behind it. A print is
always read, mount by mount, with every type and option as it was; the device and the path are as
they were exactly if the path has no such ` on ` of its own (`parse_printed`).
-/
namespace HostStorage.PrintedMount

/-! ## What is printed -/

/-- A file system type or an option: a text on one line, without blanks at its ends, that has none
of the characters between and around the options. -/
structure IsToken (s : String) : Prop where
  notEmpty : s ≠ ""
  trimmed : Text.trimmed s = s
  plain : ∀ c ∈ [',', '(', ')', '\n'], c ∉ s.toList

instance : DecidablePred IsToken := fun s =>
  decidable_of_iff
    (s ≠ "" ∧ Text.trimmed s = s ∧ [',', '(', ')', '\n'].all (!s.toList.contains ·) = true)
    ⟨fun h => ⟨h.1, h.2.1, by simpa using h.2.2⟩,
      fun h => ⟨h.notEmpty, h.trimmed, by simpa using h.plain⟩⟩

/-- A mount that is printed: any device in one word, and any path from the root on one line. -/
structure Mounted where
  device : String
  path : String
  fsType : String
  options : List String
  isWord : Text.IsWord device.toList
  absolute : Path.isAbsolute path = true
  oneLine : '\n' ∉ path.toList
  tokens : ∀ token ∈ fsType :: options, IsToken token

namespace Mounted

/-- The text in parentheses. -/
def inner (m : Mounted) : String := Text.joined ", " (m.fsType :: m.options)

def front (m : Mounted) : String := m.device ++ " on " ++ m.path

def line (m : Mounted) : String := m.front ++ " (" ++ m.inner ++ ")"

/-- The record that has the parts of a mount unchanged. -/
def record (m : Mounted) : MountRecord := ⟨m.device, m.path, m.device, m.fsType, m.options⟩

def OnPath (m : Mounted) : Prop := Text.startsWith m.device "/" = true

instance : DecidablePred OnPath := fun _ => inferInstanceAs (Decidable (_ = true))

/-- The path has an ` on ` of its own with text behind it. -/
def NamesOn (m : Mounted) : Prop :=
  ∃ before behind, behind ≠ "" ∧ m.path = before ++ " on " ++ behind

end Mounted

/-- The mounts as they are printed, each on a line. -/
def printed (mounts : List Mounted) : String :=
  Text.joined "\n" (mounts.map Mounted.line ++ [""])

/-! ## The last cut -/

/-- The rightmost cut at a marker with text behind it: whatever stands before another one stands
before this one. -/
structure IsLastCut (marker cs before behind : List Char) : Prop where
  whole : cs = before ++ marker ++ behind
  notEmpty : behind ≠ []
  last : ∀ before' behind', cs = before' ++ marker ++ behind' → behind' ≠ [] → before' <+: before

variable {marker cs before behind : List Char}

theorem IsLastCut.unique {before' behind' : List Char} (cut : IsLastCut marker cs before behind)
    (cut' : IsLastCut marker cs before' behind') : before' = before ∧ behind' = behind := by
  obtain rfl : before' = before :=
    (cut.last _ _ cut'.whole cut'.notEmpty).eq_of_length_le
      (cut'.last _ _ cut.whole cut.notEmpty).length_le
  exact ⟨rfl, List.append_cancel_left (cut'.whole.symm.trans cut.whole)⟩

/-- What stands behind a cut ends as the text does. -/
theorem exists_eq_concat {c : Char} {r : List Char} (whole : r ++ [c] = before ++ behind)
    (notEmpty : behind ≠ []) : ∃ back, behind = back ++ [c] := by
  obtain empty | ⟨back, d, rfl⟩ := List.eq_nil_or_concat' behind
  · exact absurd empty notEmpty
  · rw [← List.append_assoc] at whole
    have last := List.append_inj_right' whole rfl
    exact ⟨back, by rw [last]⟩

/-- Read backwards and without its last character, a text is cut at the first marker. -/
theorem isLastCut_concat_iff {c : Char} {r back : List Char} :
    IsLastCut marker (r ++ [c]) before (back ++ [c]) ↔
      Text.cut? marker.reverse r.reverse = some (back.reverse, before.reverse) := by
  have turned : ∀ front rest, r.reverse = rest.reverse ++ marker.reverse ++ front.reverse ↔
      r ++ [c] = front ++ marker ++ (rest ++ [c]) := by
    intro front rest
    rw [← List.append_assoc (front ++ marker), List.append_cancel_right_eq, ← List.reverse_inj]
    simp
  rw [Text.cut?_eq_some_iff, turned]
  constructor
  · intro cut
    refine ⟨cut.whole, fun rest front other => ?_⟩
    rw [← rest.reverse_reverse, ← front.reverse_reverse, turned] at other
    have starts := cut.last _ _ other (by simp)
    rwa [← List.reverse_suffix, List.reverse_reverse] at starts
  · intro cut
    refine ⟨cut.1, by simp, fun front rest other notEmpty => ?_⟩
    obtain ⟨rest, rfl⟩ := exists_eq_concat other notEmpty
    exact List.reverse_suffix.1 (cut.2 _ _ ((turned front rest).2 other))

theorem lastCut?_concat (marker r : List Char) (c : Char) :
    lastCut? marker (r ++ [c]) = (Text.cut? marker.reverse r.reverse).bind fun p =>
      if p.2.isEmpty then none else some (p.2.reverse, p.1.reverse ++ [c]) := by
  unfold lastCut?
  rw [List.reverse_concat]
  cases cut : Text.cut? marker.reverse r.reverse <;> simp [cut]

theorem lastCut?_eq_some_iff :
    lastCut? marker cs = some (before, behind) ↔
      IsLastCut marker cs before behind ∧ before ≠ [] := by
  obtain rfl | ⟨r, c, rfl⟩ := List.eq_nil_or_concat' cs
  · refine iff_of_false nofun fun found => found.1.notEmpty ?_
    exact (List.append_eq_nil_iff.1 found.1.whole.symm).2
  · rw [lastCut?_concat, Option.bind_eq_some_iff]
    constructor
    · intro found
      obtain ⟨⟨rest, front⟩, cut, same⟩ := found
      rw [Option.ite_none_left_eq_some] at same
      obtain ⟨notEmpty, same⟩ := same
      cases same
      rw [← rest.reverse_reverse, ← front.reverse_reverse] at cut
      exact ⟨isLastCut_concat_iff.2 cut, by simpa using notEmpty⟩
    · intro found
      obtain ⟨cut, notEmpty⟩ := found
      obtain ⟨back, rfl⟩ := exists_eq_concat cut.whole cut.notEmpty
      exact ⟨_, isLastCut_concat_iff.1 cut, by simp [notEmpty]⟩

/-- There is a last cut if there is any. -/
theorem exists_isLastCut (whole : cs = before ++ marker ++ behind) (notEmpty : behind ≠ []) :
    ∃ before behind, IsLastCut marker cs before behind := by
  obtain empty | ⟨back, c, rfl⟩ := List.eq_nil_or_concat' behind
  · exact absurd empty notEmpty
  · obtain ⟨rest, front, found, -⟩ :=
      Text.exists_cut?_append marker.reverse back.reverse before.reverse
    refine ⟨front.reverse, rest.reverse ++ [c], ?_⟩
    rw [whole, ← List.append_assoc, isLastCut_concat_iff]
    simpa using found

/-- A marker whose last character does not follow any more is cut at. -/
theorem isLastCut_of_notMem {c : Char} (notEmpty : behind ≠ []) (absent : c ∉ behind) :
    IsLastCut (marker ++ [c]) (before ++ (marker ++ [c]) ++ behind) before behind := by
  refine ⟨rfl, notEmpty, fun before' behind' other _ => ?_⟩
  have ends : behind <:+ before' ++ (marker ++ [c]) ++ behind' := ⟨_, other⟩
  have ends' : c :: behind' <:+ before' ++ (marker ++ [c]) ++ behind' :=
    ⟨before' ++ marker, by simp⟩
  have short : behind.length ≤ behind'.length := by
    rcases List.suffix_or_suffix_of_suffix ends ends' with follows | follows
    · rcases List.suffix_cons_iff.1 follows with rfl | follows
      · exact absurd List.mem_cons_self absent
      · exact follows.length_le
    · exact absurd (follows.subset List.mem_cons_self) absent
  have lengths := congrArg List.length other
  simp only [List.length_append] at lengths
  have starts : before <+: before' ++ (marker ++ [c]) ++ behind' :=
    ⟨marker ++ [c] ++ behind, by rw [← List.append_assoc, other]⟩
  have starts' : before' <+: before' ++ (marker ++ [c]) ++ behind' :=
    ⟨marker ++ [c] ++ behind', by rw [List.append_assoc before']⟩
  exact List.prefix_of_prefix_length_le starts' starts (by omega)

/-! ## The parts of a line -/

/-- The characters between the device and the path. -/
def on : List Char := [' ', 'o', 'n', ' ']

/-- A record of a mount as its line tells it. -/
structure ReadAs (m : Mounted) (r : MountRecord) : Prop where
  cut : IsLastCut on m.front.toList r.device.toList r.path.toList
  source : r.source = r.device
  fsType : r.fsType = m.fsType
  options : r.options = m.options

namespace Mounted

variable (m : Mounted)

theorem toList_front : m.front.toList = m.device.toList ++ on ++ m.path.toList := by
  simp [front, on]

theorem toList_line : m.line.toList =
    m.front.toList ++ ([' '] ++ ['(']) ++ m.inner.toList ++ [')'] := by
  simp [line]

theorem toList_inner : m.inner.toList =
    Text.join [',', ' '] ((m.fsType :: m.options).map String.toList) := by
  rw [inner, Text.joined, String.toList_ofList]
  rfl

theorem exists_path_eq : ∃ rest, m.path.toList = '/' :: rest := by
  obtain ⟨rest, whole⟩ := Text.startsWith_iff.1 m.absolute
  exact ⟨rest.toList, by rw [whole, String.toList_append]; rfl⟩

theorem path_ne_nil : m.path.toList ≠ [] := by
  obtain ⟨rest, whole⟩ := m.exists_path_eq
  rw [whole]
  exact List.cons_ne_nil _ _

theorem notMem_inner {c : Char} (reserved : c ∈ ['(', ')', '\n']) : c ∉ m.inner.toList := by
  rw [toList_inner]
  intro listed
  rcases Text.mem_join listed with inSeparator | inToken
  · obtain rfl | rfl : c = ',' ∨ c = ' ' := by simpa using inSeparator
    · exact absurd reserved (by decide)
    · exact absurd reserved (by decide)
  · obtain ⟨piece, isPiece, inPiece⟩ := inToken
    obtain ⟨token, isToken, rfl⟩ := List.mem_map.1 isPiece
    exact (m.tokens token isToken).plain c (List.mem_cons_of_mem _ reserved) inPiece

/-- The blank behind a comma is in front of the option that follows. -/
theorem join_comma_blank (piece : List Char) (others : List (List Char)) :
    Text.join [',', ' '] (piece :: others) = Text.join [','] (piece :: others.map (' ' :: ·)) := by
  induction others generalizing piece with
  | nil => rfl
  | cons next others ih =>
    rw [List.map_cons, Text.join_cons (List.cons_ne_nil next others),
      Text.join_cons (List.cons_ne_nil _ _), Text.join_cons_cons, ih]
    simp

theorem splitAt_inner : Text.splitAt ',' m.inner = m.fsType :: m.options.map (" " ++ ·) := by
  refine Text.splitAt_eq_iff.2 ⟨List.cons_ne_nil _ _, ?_, ?_⟩
  · rw [← String.toList_inj, toList_inner, List.map_cons, join_comma_blank, Text.joined]
    simp [Function.comp_def]
  · intro piece listed
    have plain : ∀ token ∈ m.fsType :: m.options, ',' ∉ token.toList := fun token isToken =>
      (m.tokens token isToken).plain ',' List.mem_cons_self
    rcases List.mem_cons.1 listed with rfl | isOption
    · exact plain _ List.mem_cons_self
    · obtain ⟨token, isToken, rfl⟩ := List.mem_map.1 isOption
      simpa using plain token (List.mem_cons_of_mem _ isToken)

theorem trimmed_splitAt_inner :
    (Text.splitAt ',' m.inner).map Text.trimmed = m.fsType :: m.options := by
  have trimmed : ∀ token ∈ m.fsType :: m.options, Text.trimmed token = token := fun token isToken =>
    (m.tokens token isToken).trimmed
  have behindBlank : ∀ option ∈ m.options, Text.trimmed (" " ++ option) = option := by
    intro option listed
    have blank : Text.isBlank ' ' = true := by decide
    calc Text.trimmed (" " ++ option) = Text.trimmed option := by
          rw [Text.trimmed, String.toList_append]
          exact congrArg String.ofList (Text.trim_cons_of_isBlank blank _)
      _ = option := trimmed option (List.mem_cons_of_mem _ listed)
  have options : m.options.map (Text.trimmed ∘ (" " ++ ·)) = m.options.map id :=
    List.map_congr_left behindBlank
  rw [splitAt_inner, List.map_cons, trimmed _ List.mem_cons_self, List.map_map, options,
    List.map_id]

theorem inner_ne_nil : m.inner.toList ≠ [] := by
  intro empty
  have pieces := m.splitAt_inner
  rw [Text.splitAt, empty] at pieces
  exact (m.tokens _ List.mem_cons_self).notEmpty (List.cons.inj pieces).1.symm

/-- Where the device and the path can be cut: between them, or inside the path. -/
theorem cut_front (whole : m.front.toList = before ++ on ++ behind) :
    (before = m.device.toList ∧ behind = m.path.toList) ∨
      ∃ own, before = m.device.toList ++ on ++ own ∧ m.path.toList = own ++ on ++ behind := by
  have first : Text.cut? on m.front.toList = some (m.device.toList, m.path.toList) := by
    rw [toList_front, List.append_assoc, on, Text.cut?_append_of_notMem m.isWord.isSolid.2,
      Text.cut?_append_self]
    simp
  obtain ⟨start, path⟩ := (Text.cut?_eq_some_iff.1 first).2 before behind whole
  have same : m.device.toList ++ on ++ start = before ++ on := by
    rw [toList_front, ← path, ← List.append_assoc] at whole
    exact List.append_cancel_right whole
  cases start with
  | nil =>
    rw [List.append_nil] at same
    exact Or.inl ⟨(List.append_cancel_right same).symm, path⟩
  | cons c rest =>
    obtain rfl : c = '/' := by
      obtain ⟨below, absolute⟩ := m.exists_path_eq
      rw [absolute] at path
      exact (List.cons.inj path).1
    rcases List.suffix_or_suffix_of_suffix (List.suffix_append (m.device.toList ++ on) _)
      (same ▸ List.suffix_append before on) with ends | inside
    · have slash : '/' ∈ on := ends.subset List.mem_cons_self
      exact absurd slash (by decide)
    · obtain ⟨own, ends⟩ := inside
      rw [← ends, ← List.append_assoc] at same
      exact Or.inr ⟨own, (List.append_cancel_right same).symm, by rw [← path, ← ends]⟩

theorem namesOn_iff : m.NamesOn ↔
    ∃ own behind, behind ≠ [] ∧ m.path.toList = own ++ on ++ behind := by
  constructor
  · intro names
    obtain ⟨own, behind, notEmpty, whole⟩ := names
    exact ⟨own.toList, behind.toList, by simpa using notEmpty, by simp [whole, on]⟩
  · intro names
    obtain ⟨own, behind, notEmpty, whole⟩ := names
    refine ⟨String.ofList own, String.ofList behind, by simpa using notEmpty, ?_⟩
    rw [← String.toList_inj, whole]
    simp [on]

/-- The device is in front of the last cut. -/
theorem exists_eq_device_append (cut : IsLastCut on m.front.toList before behind) :
    ∃ more, before = m.device.toList ++ more := by
  obtain ⟨more, starts⟩ := cut.last _ _ m.toList_front m.path_ne_nil
  exact ⟨more, starts.symm⟩

/-- The last cut is between the device and the path unless the path has one of its own. -/
theorem isLastCut_front_iff :
    IsLastCut on m.front.toList m.device.toList m.path.toList ↔ ¬ m.NamesOn := by
  rw [namesOn_iff]
  constructor
  · intro cut names
    obtain ⟨own, behind, notEmpty, whole⟩ := names
    have later := cut.last (m.device.toList ++ on ++ own) behind (by simp [toList_front, whole])
      notEmpty
    have lengths := later.length_le
    simp only [List.length_append, on, List.length_cons] at lengths
    omega
  · intro plain
    refine ⟨m.toList_front, m.path_ne_nil, fun before behind whole notEmpty => ?_⟩
    rcases m.cut_front whole with between | inside
    · exact between.1 ▸ List.prefix_refl _
    · obtain ⟨own, -, path⟩ := inside
      exact absurd ⟨own, behind, notEmpty, path⟩ plain

end Mounted

namespace ReadAs

variable {m : Mounted} {r : MountRecord}

theorem eq_record_iff (read : ReadAs m r) : r = m.record ↔ ¬ m.NamesOn := by
  rw [← m.isLastCut_front_iff]
  constructor
  · intro same
    have cut := read.cut
    rwa [same] at cut
  · intro cut
    obtain ⟨device, path⟩ := cut.unique read.cut
    have source := read.source
    rw [String.toList_inj] at device path
    cases r
    simp only at device path source
    rw [Mounted.record, MountRecord.mk.injEq]
    exact ⟨device, path, source.trans device, read.fsType, read.options⟩

/-- What is read as the device is a path if the device is one. -/
theorem startsWith_iff (read : ReadAs m r) : Text.startsWith r.device "/" = true ↔ m.OnPath := by
  obtain ⟨more, device⟩ := m.exists_eq_device_append read.cut
  rw [Mounted.OnPath, Text.startsWith, Text.startsWith, device]
  cases first : m.device.toList with
  | nil => exact absurd first m.isWord.1
  | cons c rest => simp

end ReadAs

/-! ## Reading -/

namespace Mounted

/-- A line is read, with its device and path cut at the last place. -/
theorem exists_parts?_line (m : Mounted) : ∃ device path,
    parts? m.line.toList = some (String.ofList device, String.ofList path, m.inner) ∧
      IsLastCut on m.front.toList device path := by
  have parenthesis : IsLastCut ([' '] ++ ['(']) (m.front.toList ++ ([' '] ++ ['(']) ++
      m.inner.toList) m.front.toList m.inner.toList :=
    isLastCut_of_notMem m.inner_ne_nil (m.notMem_inner List.mem_cons_self)
  have frontSome : m.front.toList ≠ [] := by
    rw [toList_front, List.append_assoc]
    exact List.append_ne_nil_of_left_ne_nil m.isWord.1 _
  obtain ⟨device, path, cut⟩ := exists_isLastCut m.toList_front m.path_ne_nil
  have deviceSome : device ≠ [] := by
    obtain ⟨more, rfl⟩ := m.exists_eq_device_append cut
    exact List.append_ne_nil_of_left_ne_nil m.isWord.1 _
  have frontParts : lastCut? [' ', 'o', 'n', ' '] m.front.toList = some (device, path) :=
    lastCut?_eq_some_iff.2 ⟨cut, deviceSome⟩
  refine ⟨device, path, ?_, cut⟩
  rw [parts?, toList_line, List.getLast?_concat, List.dropLast_concat, if_pos rfl]
  have found := lastCut?_eq_some_iff.2 ⟨parenthesis, frontSome⟩
  simp only [List.singleton_append] at found ⊢
  rw [found]
  simp [frontParts]

/-- A line is read as the mount it is printed of, if the device is a path. -/
theorem exists_parseLine_line (m : Mounted) :
    ∃ r, ReadAs m r ∧ parseLine m.line = .ok (if m.OnPath then some r else none) := by
  obtain ⟨device, path, parts, cut⟩ := m.exists_parts?_line
  let r : MountRecord :=
    ⟨String.ofList device, String.ofList path, String.ofList device, m.fsType, m.options⟩
  have read : ReadAs m r := ⟨by simpa [r] using cut, rfl, rfl, rfl⟩
  refine ⟨r, read, ?_⟩
  have typed : m.fsType.isEmpty = false := by
    simpa using (m.tokens _ List.mem_cons_self).notEmpty
  unfold parseLine
  rw [parts]
  simp only [trimmed_splitAt_inner, typed]
  by_cases onPath : m.OnPath
  · rw [if_pos onPath, if_pos (read.startsWith_iff.2 onPath)]
    rfl
  · rw [if_neg onPath, if_neg (mt read.startsWith_iff.1 onPath)]

theorem notMem_line (m : Mounted) : '\n' ∉ m.line.toList := by
  have inDevice : '\n' ∉ m.device.toList := fun listed => by
    have solid := m.isWord.2 '\n' listed
    exact absurd solid (by decide)
  have inInner : '\n' ∉ m.inner.toList := m.notMem_inner (by decide)
  simp [toList_line, toList_front, on, inDevice, inInner, m.oneLine]

end Mounted

/-- The lines of a print. -/
theorem linesOf_printed (mounts : List Mounted) :
    Text.linesOf (printed mounts) = mounts.map Mounted.line := by
  have found : Text.lines (Text.join ['\n'] (mounts.map (·.line.toList) ++ [[]])) =
      mounts.map (·.line.toList) := by
    apply Text.lines_join_concat
    · intro piece isPiece
      obtain ⟨m, -, rfl⟩ := List.mem_map.1 isPiece
      exact m.notMem_line
    · intro piece isPiece
      obtain ⟨m, -, rfl⟩ := List.mem_map.1 isPiece
      rw [m.toList_line, List.getLast?_concat]
      decide
  rw [Text.linesOf, printed, Text.joined, String.toList_ofList, List.map_append, List.map_map]
  change (Text.lines (Text.join ['\n'] (mounts.map (·.line.toList) ++ [[]]))).map String.ofList = _
  rw [found]
  simp

/-- The records of mounts, line by line. -/
theorem exists_mapM_line (mounts : List Mounted) : ∃ found,
    (mounts.map Mounted.line).mapM parseLine = .ok found ∧
      List.Forall₂ ReadAs (mounts.filter (·.OnPath)) (found.filterMap id) := by
  induction mounts with
  | nil => exact ⟨[], rfl, .nil⟩
  | cons m others ih =>
    obtain ⟨r, read, parsed⟩ := m.exists_parseLine_line
    obtain ⟨found, tail, records⟩ := ih
    refine ⟨(if m.OnPath then some r else none) :: found, ?_, ?_⟩
    · rw [List.map_cons, List.mapM_cons, parsed, tail]
      rfl
    · by_cases onPath : m.OnPath
      · rw [if_pos onPath, List.filter_cons_of_pos (by simpa using onPath)]
        exact .cons read records
      · rw [if_neg onPath, List.filter_cons_of_neg (by simpa using onPath)]
        exact records

/-- Records that are read of mounts are those of the mounts exactly if no path names an ` on `. -/
theorem eq_map_record_iff {mounts : List Mounted} {records : List MountRecord}
    (read : List.Forall₂ ReadAs mounts records) :
    records = mounts.map Mounted.record ↔ ∀ m ∈ mounts, ¬ m.NamesOn := by
  induction read with
  | nil => simp
  | cons here _ ih =>
    rw [List.map_cons, List.cons.injEq, here.eq_record_iff, ih, List.forall_mem_cons]

/-- A print is always read, as one record for each mount whose device is a path, in order. These are
the mounts as they were printed exactly if none of their paths has an ` on ` with text behind it. -/
theorem parse_printed (mounts : List Mounted) :
    let mounted := mounts.filter (·.OnPath)
    (∃ records, parse (printed mounts) = .ok records ∧ List.Forall₂ ReadAs mounted records) ∧
      (parse (printed mounts) = .ok (mounted.map Mounted.record) ↔ ∀ m ∈ mounted, ¬ m.NamesOn) := by
  intro mounted
  obtain ⟨found, parsed, read⟩ := exists_mapM_line mounts
  have records : parse (printed mounts) = .ok (found.filterMap id) := by
    rw [parse, linesOf_printed, parsed]
    rfl
  refine ⟨⟨found.filterMap id, records, read⟩, ?_⟩
  rw [records, Except.ok.injEq, eq_map_record_iff read]

/-- Blanks and parentheses in a path are read back. -/
example : (parse "/dev/disk2 on /Volumes/a (b) (hfs)\nmap -hosts on /net (autofs)\n").toOption =
    some [⟨"/dev/disk2", "/Volumes/a (b)", "/dev/disk2", "hfs", []⟩] := by
  decide +kernel

/-- A volume with an ` on ` in its name is recorded with a part of its path as its device. -/
theorem volume_named_with_on :
    ∃ m : Mounted, m.device = "/dev/disk2s1" ∧ m.path = "/Volumes/Time on Disk" ∧
      m.fsType = "hfs" ∧ m.options = ["local"] ∧ m.OnPath ∧
      printed [m] = "/dev/disk2s1 on /Volumes/Time on Disk (hfs, local)\n" ∧
      parse (printed [m]) = .ok [⟨"/dev/disk2s1 on /Volumes/Time", "Disk",
        "/dev/disk2s1 on /Volumes/Time", "hfs", ["local"]⟩] ∧
      parse (printed [m]) ≠ .ok [m.record] := by
  let m : Mounted :=
    { device := "/dev/disk2s1"
      path := "/Volumes/Time on Disk"
      fsType := "hfs"
      options := ["local"]
      isWord := by decide +kernel
      absolute := by decide +kernel
      oneLine := by decide +kernel
      tokens := by decide +kernel }
  have read : parse (printed [m]) = .ok [⟨"/dev/disk2s1 on /Volumes/Time", "Disk",
      "/dev/disk2s1 on /Volumes/Time", "hfs", ["local"]⟩] :=
    eq_ok_of_toOption (by decide +kernel)
  refine ⟨m, rfl, rfl, rfl, rfl, by decide +kernel, by decide +kernel, read, fun same => ?_⟩
  rw [read, Except.ok.injEq] at same
  exact absurd same (by decide +kernel)

end HostStorage.PrintedMount
