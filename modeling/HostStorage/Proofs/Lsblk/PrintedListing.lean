import HostStorage.Lsblk.Row
import HostStorage.Proofs.Text.Pieces
import Mathlib.Data.List.Forall2

/-!
# Reading a printed listing

The device lister prints the columns of a device as `KEY="VALUE"` with single spaces between them,
one device on a line. A value ends at the first quotation mark behind its own and a key starts
behind a space, so the pairs of a line are found one by one, whatever the values look like
(`pairs_columnsText`). A listing is read back row by row, with blank lines passed over wherever they
stand (`ofListing_printed`).
-/
namespace HostStorage

/-! ## What is printed -/

/-- A capital, then capitals, digits, colons, underscores and dashes. -/
def IsKey : List Char → Prop
  | [] => False
  | c :: r => c.isUpper = true ∧ ∀ d ∈ r, DeviceRow.isKeyChar d = true

/-- A column of a device. Its value may be any text without a quotation mark on one line. -/
structure Column where
  key : String
  value : String
  isKey : IsKey key.toList
  unquoted : '"' ∉ value.toList
  oneLine : '\n' ∉ value.toList

def Column.text (c : Column) : String := c.key ++ "=\"" ++ c.value ++ "\""

def columnsText (columns : List Column) : String := Text.joined " " (columns.map Column.text)

/-- A line of a printed listing: a device with at least one column, or nothing but blanks. -/
inductive PrintedLine where
  | device (columns : List Column) (notEmpty : columns ≠ [])
  | blank (text : String) (allBlank : Text.allBlank text.toList = true)
      (oneLine : '\n' ∉ text.toList)

namespace PrintedLine

def text : PrintedLine → String
  | device columns _ => columnsText columns
  | blank text _ _ => text

def columns? : PrintedLine → Option (List Column)
  | device columns _ => some columns
  | blank _ _ _ => none

end PrintedLine

/-- The text of a listing; a newline at its end stands before an empty last line. -/
def printedListing (page : List PrintedLine) : String :=
  Text.joined "\n" (page.map PrintedLine.text)

def printedDevices (page : List PrintedLine) : List (List Column) :=
  page.filterMap PrintedLine.columns?

/-- The value of the last column with one of the keys, empty if there is none. -/
inductive LastValue (keys : List String) (columns : List Column) : String → Prop
  | told (before after : List Column) (c : Column) (whole : columns = before ++ c :: after)
      (isKey : c.key ∈ keys) (last : ∀ later ∈ after, later.key ∉ keys) :
      LastValue keys columns c.value
  | absent (nowhere : ∀ c ∈ columns, c.key ∉ keys) : LastValue keys columns ""

/-- A row that tells what is printed of a device. -/
structure Shows (columns : List Column) (row : DeviceRow) : Prop where
  name : LastValue ["NAME"] columns row.name
  kind : LastValue ["TYPE"] columns row.kind
  mountPoint : LastValue ["MOUNTPOINT", "MOUNTPOINTS"] columns row.mountPoint
  line : row.line = columnsText columns

/-! ## Columns on a line -/

def Column.pair (c : Column) : List Char × List Char := (c.key.toList, c.value.toList)

theorem takeWhile_dropWhile_append_cons {p : Char → Bool} {cs : List Char}
    (all : ∀ c ∈ cs, p c = true) {c : Char} (stops : p c = false) (rest : List Char) :
    (cs ++ c :: rest).takeWhile p = cs ∧ (cs ++ c :: rest).dropWhile p = c :: rest := by
  constructor
  · rw [List.takeWhile_append_of_pos all, List.takeWhile_cons_of_neg (by simp [stops])]
    simp
  · rw [List.dropWhile_append_of_pos all, List.dropWhile_cons_of_neg (by simp [stops])]

theorem Column.toList_text_append (c : Column) (rest : List Char) :
    c.text.toList ++ rest =
      c.key.toList ++ '=' :: '"' :: (c.value.toList ++ '"' :: rest) := by
  simp [Column.text]

/-- The reader finds a column where it starts, and goes on behind it. -/
theorem Column.exists_pairAt? (c : Column) (rest : List Char) :
    ∃ first r, c.text.toList ++ rest = first :: r ∧
      DeviceRow.pairAt? first r = some (c.pair, rest) := by
  have isKey := c.isKey
  cases key : c.key.toList with
  | nil => exact absurd isKey (by simp [key, IsKey])
  | cons first keyRest =>
    rw [key] at isKey
    obtain ⟨capital, keyChars⟩ := isKey
    refine ⟨first, keyRest ++ '=' :: '"' :: (c.value.toList ++ '"' :: rest), ?_, ?_⟩
    · rw [c.toList_text_append, key]
      rfl
    · have unquoted : ∀ d ∈ c.value.toList, (d != '"') = true := by
        intro d listed
        apply bne_iff_ne.2
        intro quote
        exact c.unquoted (quote ▸ listed)
      obtain ⟨keyTaken, keyDropped⟩ := takeWhile_dropWhile_append_cons keyChars
        (show DeviceRow.isKeyChar '=' = false by decide) ('"' :: (c.value.toList ++ '"' :: rest))
      obtain ⟨valueTaken, valueDropped⟩ := takeWhile_dropWhile_append_cons unquoted
        (show ('"' != '"') = false by decide) rest
      simp only [DeviceRow.pairAt?, if_pos capital, keyDropped, valueDropped, keyTaken, valueTaken,
        Column.pair, key]

theorem pairs_cons_of_pairAt? {c : Char} {r after : List Char} {p : List Char × List Char}
    (found : DeviceRow.pairAt? c r = some (p, after)) :
    DeviceRow.pairs (c :: r) = p :: DeviceRow.pairs after := by
  rw [DeviceRow.pairs]
  split
  next found' =>
    rw [found] at found'
    cases found'
    rfl
  next missing =>
    rw [found] at missing
    cases missing

/-- A space starts no pair. -/
theorem pairs_space_cons (r : List Char) : DeviceRow.pairs (' ' :: r) = DeviceRow.pairs r := by
  rw [DeviceRow.pairs]
  split
  next found => cases found
  next => rfl

/-- The pairs of a line are its columns. -/
theorem pairs_columnsText (columns : List Column) :
    DeviceRow.pairs (columnsText columns).toList = columns.map Column.pair := by
  rw [columnsText, Text.joined, String.toList_ofList, List.map_map]
  change DeviceRow.pairs (Text.join [' '] (columns.map fun c => c.text.toList)) = _
  induction columns with
  | nil =>
    change DeviceRow.pairs [] = []
    rw [DeviceRow.pairs]
  | cons c others ih =>
    by_cases last : others = []
    · obtain ⟨first, r, whole, found⟩ := c.exists_pairAt? []
      have line : Text.join [' '] ((c :: others).map fun c => c.text.toList) = first :: r := by
        simp [last, Text.join, ← whole]
      rw [line, pairs_cons_of_pairAt? found, last, DeviceRow.pairs]
      rfl
    · obtain ⟨first, r, whole, found⟩ :=
        c.exists_pairAt? (' ' :: Text.join [' '] (others.map fun c => c.text.toList))
      rw [List.map_cons, Text.join_cons (by simpa using last), List.append_assoc,
        List.singleton_append, whole, pairs_cons_of_pairAt? found, pairs_space_cons, ih]
      rfl

/-- The value that is read for some keys is that of the last column with one of them. -/
theorem lastValue_pairs (keys : List String) (columns : List Column) :
    LastValue keys columns (DeviceRow.lastValue keys (columns.map Column.pair)) := by
  have isKey : ∀ c : Column, keys.contains (String.ofList c.pair.1) = true ↔ c.key ∈ keys := by
    intro c
    simp [Column.pair]
  unfold DeviceRow.lastValue
  rw [List.getLast?_filter, ← List.map_reverse, List.find?_map]
  cases found : columns.reverse.find?
      ((fun p => keys.contains (String.ofList p.1)) ∘ Column.pair) with
  | none =>
    refine .absent fun c listed known => ?_
    exact List.find?_eq_none.1 found c (List.mem_reverse.2 listed) ((isKey c).2 known)
  | some c =>
    obtain ⟨known, later, earlier, whole, others⟩ := List.find?_eq_some_iff_append.1 found
    have told : LastValue keys columns c.value := by
      refine .told earlier.reverse later.reverse c ?_ ((isKey c).1 known) fun d listed also => ?_
      · rw [← List.reverse_reverse columns, whole]
        simp
      · have other := others d (List.mem_reverse.1 listed)
        rw [Function.comp_apply, (isKey d).2 also] at other
        cases other
    simpa [Column.pair] using told

/-- A line is read as what is printed of its device. -/
theorem shows_ofLine (columns : List Column) :
    Shows columns (DeviceRow.ofLine (columnsText columns)) := by
  unfold DeviceRow.ofLine
  rw [pairs_columnsText]
  exact ⟨lastValue_pairs _ columns, lastValue_pairs _ columns, lastValue_pairs _ columns, rfl⟩

/-! ## Lines of a listing -/

theorem IsKey.notMem {cs : List Char} (isKey : IsKey cs) : '\n' ∉ cs := by
  cases cs with
  | nil => exact List.not_mem_nil
  | cons c r =>
    obtain ⟨capital, keyChars⟩ := isKey
    intro listed
    rcases List.mem_cons.1 listed with rfl | later
    · exact absurd capital (by decide)
    · exact absurd (keyChars _ later) (by decide)

theorem Column.notMem_text (c : Column) : '\n' ∉ c.text.toList := by
  simp [Column.text, c.isKey.notMem, c.oneLine]

theorem notMem_columnsText (columns : List Column) : '\n' ∉ (columnsText columns).toList := by
  rw [columnsText, Text.joined, String.toList_ofList]
  intro listed
  rcases Text.mem_join listed with inSeparator | ⟨piece, isPiece, inPiece⟩
  · exact absurd inSeparator (by decide)
  · obtain ⟨text, isText, rfl⟩ := List.mem_map.1 isPiece
    obtain ⟨c, -, rfl⟩ := List.mem_map.1 isText
    exact c.notMem_text inPiece

/-- The line of a device ends with a quotation mark. -/
theorem exists_columnsText_eq {columns : List Column} (notEmpty : columns ≠ []) :
    ∃ before, (columnsText columns).toList = before ++ ['"'] := by
  rw [columnsText, Text.joined, String.toList_ofList]
  induction columns with
  | nil => exact absurd rfl notEmpty
  | cons c others ih =>
    by_cases last : others = []
    · refine ⟨c.key.toList ++ "=\"".toList ++ c.value.toList, ?_⟩
      simp [last, Text.join, Column.text]
    · obtain ⟨before, whole⟩ := ih last
      refine ⟨c.text.toList ++ " ".toList ++ before, ?_⟩
      rw [List.map_cons, List.map_cons, Text.join_cons (by simpa using last), whole,
        List.append_assoc _ before]

namespace PrintedLine

theorem notMem_text (line : PrintedLine) : '\n' ∉ line.text.toList := by
  cases line with
  | device columns => exact notMem_columnsText columns
  | blank text allBlank oneLine => exact oneLine

/-- A line is blank or ends with something else than a carriage return. -/
theorem allBlank_or_getLast?_ne (line : PrintedLine) :
    Text.allBlank line.text.toList = true ∨ line.text.toList.getLast? ≠ some '\r' := by
  cases line with
  | device columns notEmpty =>
    obtain ⟨before, whole⟩ := exists_columnsText_eq notEmpty
    right
    rw [text, whole, List.getLast?_concat]
    decide
  | blank text allBlank oneLine => exact Or.inl allBlank

/-- The lines that are not blank are those of devices. -/
theorem filter_text (page : List PrintedLine) :
    (page.map fun line => line.text.toList).filter (!Text.allBlank ·) =
      (printedDevices page).map fun columns => (columnsText columns).toList := by
  induction page with
  | nil => rfl
  | cons line rest ih =>
    cases line with
    | device columns notEmpty =>
      obtain ⟨before, whole⟩ := exists_columnsText_eq notEmpty
      have solid : Text.allBlank (columnsText columns).toList = false := by
        rw [whole, Text.allBlank, List.all_append, Bool.and_eq_false_iff]
        exact Or.inr (by decide)
      rw [List.map_cons, List.filter_cons_of_pos (by simp [text, solid]), ih]
      rfl
    | blank text allBlank oneLine =>
      rw [List.map_cons, List.filter_cons_of_neg (by simp [PrintedLine.text, allBlank]), ih]
      rfl

end PrintedLine

/-- The lines of a listing that are read are those of its devices. -/
theorem filter_linesOf_printedListing (page : List PrintedLine) :
    (Text.linesOf (printedListing page)).filter (fun l => !Text.allBlank l.toList) =
      (printedDevices page).map columnsText := by
  have kept : (Text.lines (Text.join ['\n'] (page.map fun line => line.text.toList))).filter
      (!Text.allBlank ·) = (page.map fun line => line.text.toList).filter (!Text.allBlank ·) := by
    apply Text.filter_lines_join
    · intro piece isPiece
      obtain ⟨line, -, rfl⟩ := List.mem_map.1 isPiece
      exact line.notMem_text
    · intro piece isPiece
      obtain ⟨line, -, rfl⟩ := List.mem_map.1 isPiece
      exact line.allBlank_or_getLast?_ne
  have characters : ((fun l : String => !Text.allBlank l.toList) ∘ String.ofList) =
      (!Text.allBlank ·) := by
    funext cs
    simp
  rw [PrintedLine.filter_text] at kept
  rw [Text.linesOf, printedListing, Text.joined, String.toList_ofList, List.map_map,
    List.filter_map, characters]
  change (List.filter _ (Text.lines (Text.join ['\n']
    (page.map fun line => line.text.toList)))).map String.ofList = _
  rw [kept]
  simp

/-- A printed listing is read as one row for each device, in order, with the values of its last
columns of each kind and with its line. -/
theorem ofListing_printed (page : List PrintedLine) :
    List.Forall₂ Shows (printedDevices page) (DeviceRow.ofListing (printedListing page)) := by
  rw [DeviceRow.ofListing, filter_linesOf_printedListing, List.map_map, List.forall₂_map_right_iff]
  exact List.forall₂_same.2 fun columns _ => shows_ofLine columns

/-- Values that look like columns, and keys that end like others, tell nothing. -/
example : DeviceRow.ofListing "\nNAME=\"sda\" LABEL=\"NAME= TYPE=\" PKNAME=\"sdb\"\n \r\n" =
    [{ name := "sda", line := "NAME=\"sda\" LABEL=\"NAME= TYPE=\" PKNAME=\"sdb\"" }] := by
  decide +kernel

end HostStorage
