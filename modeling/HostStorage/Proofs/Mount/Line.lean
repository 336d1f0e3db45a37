import HostStorage.Mount.Table
import HostStorage.Proofs.Mount.Escape
import HostStorage.Proofs.Text.Pieces

/-!
# Lines of the mount table

An entry is written as its fields with one blank between them and a lone dash before the type. The
reader looks for the first dash that stands alone and cuts the text on both sides of it into words:
as long as no written field is such a dash or has a blank, each word is one field again
(`parse_line`). Escapes see to that for the paths, so a line gives its entry back whichever
characters its writer chose to escape (`parse_escaped_line`).
-/
namespace HostStorage
namespace MountEntry

/-! ## Writing -/

/-- The field of the further options; there is none if there are no options. -/
def superField (e : MountEntry) : List String :=
  if e.superOptions = [] then [] else [Text.joined "," e.superOptions]

/-- The fields before the dash, with the root and the mount point as they are written. -/
def fieldsBefore (e : MountEntry) (root mountPoint : String) : List String :=
  e.mountId :: e.parentId :: e.majorMinor :: root :: mountPoint ::
    Text.joined "," e.mountOptions :: e.optionalFields

/-- The fields after the dash, with the source as it is written. -/
def fieldsAfter (e : MountEntry) (mountSource : String) : List String :=
  e.fsType :: mountSource :: e.superField

/-- The line of an entry whose root, mount point and source are written as given. -/
def line (e : MountEntry) (root mountPoint mountSource : String) : String :=
  Text.joined " " (e.fieldsBefore root mountPoint ++ "-" :: e.fieldsAfter mountSource)

def plainFields (e : MountEntry) : List String :=
  e.mountId :: e.parentId :: e.majorMinor :: e.fsType :: Text.joined "," e.mountOptions ::
    (e.optionalFields ++ e.superField)

/-- The fields that are written as they are can be told apart, and so can the options. -/
structure Writable (e : MountEntry) : Prop where
  plain : ∀ field ∈ e.plainFields, Text.IsWord field.toList
  options : e.mountOptions ≠ []
  commas : ∀ option ∈ e.mountOptions ++ e.superOptions, ',' ∉ option.toList

variable {e : MountEntry} {root mountPoint mountSource : String}

/-! ## Reading -/

theorem optionList_joined {options : List String} (notEmpty : options ≠ [])
    (commas : ∀ option ∈ options, ',' ∉ option.toList) :
    optionList (Text.joined "," options) = options :=
  Text.splitAt_eq_iff.2 ⟨notEmpty, rfl, commas⟩

/-- The first lone dash of a line is the one before the type. -/
theorem cut?_line (writable : e.Writable) (mountSource : String)
    (rootSolid : Text.IsSolid root.toList) (pointSolid : Text.IsSolid mountPoint.toList)
    (dash : "-" ∉ e.fieldsBefore root mountPoint) :
    Text.cut? [' ', '-', ' '] (e.line root mountPoint mountSource).toList =
      some (Text.join [' '] ((e.fieldsBefore root mountPoint).map String.toList),
        Text.join [' '] ((e.fieldsAfter mountSource).map String.toList)) := by
  have solid : ∀ piece ∈ (e.fieldsBefore root mountPoint).map String.toList,
      Text.IsSolid piece := by
    have plain : ∀ field ∈ e.plainFields, Text.IsSolid field.toList :=
      fun field listed => (writable.plain field listed).isSolid
    simp only [plainFields, fieldsBefore, List.mem_cons, List.mem_append, List.map_cons,
      List.mem_map] at plain ⊢
    rintro piece (rfl | rfl | rfl | rfl | rfl | rfl | ⟨field, listed, rfl⟩)
    all_goals first | assumption | exact plain _ (by simp [*])
  have noDash : ['-'] ∉ (e.fieldsBefore root mountPoint).map String.toList := by
    intro listed
    obtain ⟨field, here, same⟩ := List.mem_map.1 listed
    rw [String.toList_inj.1 (same.trans rfl : field.toList = "-".toList)] at here
    exact dash here
  rw [line, Text.joined, String.toList_ofList, List.map_append, List.map_cons]
  exact Text.cut?_join (List.cons_ne_nil _ _) (List.cons_ne_nil _ _) solid noDash

/-- The words of joined fields are the words of the fields. -/
theorem words_joinedFields (fields : List String) :
    (Text.words (Text.join [' '] (fields.map String.toList))).map String.ofList =
      fields.flatMap Text.wordsOf := by
  rw [Text.words_join, List.flatMap_map, List.map_flatMap]
  rfl

theorem wordsOf_of_isWord {field : String} (word : Text.IsWord field.toList) :
    Text.wordsOf field = [field] := by
  rw [Text.wordsOf, word.words_eq]
  simp

theorem flatMap_wordsOf {fields : List String}
    (words : ∀ field ∈ fields, Text.IsWord field.toList) :
    fields.flatMap Text.wordsOf = fields := by
  induction fields with
  | nil => rfl
  | cons field others ih =>
    rw [List.flatMap_cons, wordsOf_of_isWord (words field List.mem_cons_self),
      ih fun other listed => words other (List.mem_cons_of_mem _ listed)]
    rfl

/-- Only the root and the mount point may be read as anything but one word. -/
theorem words_fieldsBefore (writable : e.Writable) (root mountPoint : String) :
    (Text.words (Text.join [' '] ((e.fieldsBefore root mountPoint).map String.toList))).map
      String.ofList = e.mountId :: e.parentId :: e.majorMinor :: (Text.wordsOf root ++
        Text.wordsOf mountPoint ++ Text.joined "," e.mountOptions :: e.optionalFields) := by
  have plain : ∀ field ∈ e.plainFields, Text.wordsOf field = [field] :=
    fun field listed => wordsOf_of_isWord (writable.plain field listed)
  have optional : e.optionalFields.flatMap Text.wordsOf = e.optionalFields :=
    flatMap_wordsOf fun field listed => writable.plain field (by simp [plainFields, listed])
  simp only [plainFields, List.forall_mem_cons] at plain
  rw [words_joinedFields]
  simp [fieldsBefore, plain, optional]

/-- Only the source may be read as anything but one word. -/
theorem words_fieldsAfter (writable : e.Writable) (mountSource : String) :
    (Text.words (Text.join [' '] ((e.fieldsAfter mountSource).map String.toList))).map
      String.ofList = e.fsType :: (Text.wordsOf mountSource ++ e.superField) := by
  have fsType : Text.wordsOf e.fsType = [e.fsType] :=
    wordsOf_of_isWord (writable.plain e.fsType (by simp [plainFields]))
  have super : e.superField.flatMap Text.wordsOf = e.superField :=
    flatMap_wordsOf fun field listed => writable.plain field (by simp [plainFields, listed])
  rw [words_joinedFields]
  simp [fieldsAfter, fsType, super]

/-- The further options are those of the first field after the source. -/
theorem superOptions_of_superField (writable : e.Writable) :
    (e.superField.head?.map optionList).getD [] = e.superOptions := by
  unfold superField
  split
  next empty => exact empty.symm
  next notEmpty =>
    refine optionList_joined notEmpty fun option listed => writable.commas option ?_
    exact List.mem_append_right _ listed

/-- A line with a lone dash is read as an entry if enough words stand on both sides of it. -/
theorem parse_eq_ok_iff {line : String} {before after : List Char}
    (cut : Text.cut? [' ', '-', ' '] line.toList = some (before, after)) :
    MountEntry.parse line = .ok e ↔ ∃ root mountPoint options mountSource more,
      (Text.words before).map String.ofList = e.mountId :: e.parentId :: e.majorMinor :: root ::
        mountPoint :: options :: e.optionalFields ∧
      (Text.words after).map String.ofList = e.fsType :: mountSource :: more ∧
      Octal.decoded root = e.root ∧ Octal.decoded mountPoint = e.mountPoint ∧
      optionList options = e.mountOptions ∧ Octal.decoded mountSource = e.mountSource ∧
      (more.head?.map optionList).getD [] = e.superOptions := by
  rw [MountEntry.parse, cut]
  constructor
  · intro parsed
    dsimp only at parsed
    split at parsed
    next =>
      cases parsed
      exact ⟨_, _, _, _, _, by assumption, by assumption, rfl, rfl, rfl, rfl, rfl⟩
    next => cases parsed
  · rintro ⟨root, mountPoint, options, mountSource, more, first, second, decodedRoot, decodedPoint,
      listed, decodedSource, further⟩
    simp only [first, second, decodedRoot, decodedPoint, listed, decodedSource, further]

/-- A line whose fields are words is read field by field. -/
theorem parse_line (writable : e.Writable) (rootWord : Text.IsWord root.toList)
    (pointWord : Text.IsWord mountPoint.toList) (sourceWord : Text.IsWord mountSource.toList)
    (dash : "-" ∉ e.fieldsBefore root mountPoint) :
    MountEntry.parse (e.line root mountPoint mountSource) = .ok { e with
      root := Octal.decoded root
      mountPoint := Octal.decoded mountPoint
      mountSource := Octal.decoded mountSource } := by
  have first := words_fieldsBefore writable root mountPoint
  have second := words_fieldsAfter writable mountSource
  rw [wordsOf_of_isWord rootWord, wordsOf_of_isWord pointWord] at first
  rw [wordsOf_of_isWord sourceWord] at second
  have options : optionList (Text.joined "," e.mountOptions) = e.mountOptions :=
    optionList_joined writable.options fun option listed =>
      writable.commas option (List.mem_append_left _ listed)
  have cut := cut?_line writable mountSource rootWord.isSolid pointWord.isSolid dash
  exact (parse_eq_ok_iff cut).2 ⟨root, mountPoint, _, mountSource, e.superField, first, second,
    rfl, rfl, options, rfl, superOptions_of_superField writable⟩

/-- A path that is written with escapes, none of its blanks being copied, is one word. -/
theorem isWord_of_writes {cs written : List Char} (notEmpty : cs ≠ [])
    (writes : Octal.Writes Octal.isPlain cs written) : Text.IsWord written := by
  refine ⟨writes.ne_nil notEmpty, fun c listed => ?_⟩
  cases blank : Text.isBlank c with
  | false => rfl
  | true =>
    have copied := (writes.copies_of_isBlank listed blank).1
    simp [Octal.isPlain, blank] at copied

/-- The line of an entry gives it back, whichever characters of its paths are escaped, if blanks and
backslashes are. -/
theorem parse_escaped_line (e : MountEntry) (root mountPoint mountSource : String)
    (writable : e.Writable) (rootSome : e.root ≠ "") (pointSome : e.mountPoint ≠ "")
    (sourceSome : e.mountSource ≠ "")
    (rootWritten : Octal.Writes Octal.isPlain e.root.toList root.toList)
    (pointWritten : Octal.Writes Octal.isPlain e.mountPoint.toList mountPoint.toList)
    (sourceWritten : Octal.Writes Octal.isPlain e.mountSource.toList mountSource.toList)
    (dash : "-" ∉ e.fieldsBefore root mountPoint) :
    MountEntry.parse (e.line root mountPoint mountSource) = .ok e := by
  have decoded : ∀ {text written : String},
      Octal.Writes Octal.isPlain text.toList written.toList → Octal.decoded written = text := by
    intro text written writes
    rw [Octal.decoded, Octal.decode_of_writes rfl writes, String.ofList_toList]
  have word : ∀ {text written : String}, text ≠ "" →
      Octal.Writes Octal.isPlain text.toList written.toList → Text.IsWord written.toList :=
    fun notEmpty writes => isWord_of_writes (by simpa using notEmpty) writes
  rw [parse_line writable (word rootSome rootWritten) (word pointSome pointWritten)
    (word sourceSome sourceWritten) dash]
  rw [decoded rootWritten, decoded pointWritten, decoded sourceWritten]

/-- A mount point with a dash between blanks and with the text of an escape in its name. -/
theorem escaped_dash_line :
    let e : MountEntry := ⟨"36", "35", "98:0", "/", "/mnt/a - \\040ß", ["rw", "noatime"],
      ["master:1"], "ext3", "/dev/root", ["rw", "errors=continue"]⟩
    let mountPoint := "/mnt/a\\040-\\040\\134040\\303\\237"
    e.Writable ∧ "-" ∉ e.fieldsBefore "/" mountPoint ∧
    e.line "/" mountPoint "/dev/root" = "36 35 98:0 / /mnt/a\\040-\\040\\134040\\303\\237 " ++
      "rw,noatime master:1 - ext3 /dev/root rw,errors=continue" ∧
    MountEntry.parse (e.line "/" mountPoint "/dev/root") = .ok e := by
  intro e mountPoint
  let keeps (c : Char) : Bool := Octal.isPlain c && c != 'ß'
  have kept : ∀ c, keeps c = true → Octal.isPlain c = true := by
    intro c both
    exact (Bool.and_eq_true_iff.1 both).1
  have writes : ∀ {text written : String}, Octal.writeKeeping keeps text.toList = written.toList →
      Octal.Writes Octal.isPlain text.toList written.toList :=
    fun same => same ▸ Octal.writes_writeKeeping kept _
  have writable : e.Writable := ⟨by decide +kernel, by decide, by decide +kernel⟩
  have dash : "-" ∉ e.fieldsBefore "/" mountPoint := by decide
  exact ⟨writable, dash, by decide +kernel, parse_escaped_line e "/" mountPoint "/dev/root" writable
    (by decide) (by decide) (by decide) (writes (by decide +kernel)) (writes (by decide +kernel))
    (writes (by decide +kernel)) dash⟩

end MountEntry
end HostStorage
