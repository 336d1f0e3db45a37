import HostStorage.Text.Blank

/-!
# Cutting text into pieces

Fields between separators, words between blanks, lines, and the first occurrence of a marker. All
functions recurse on the characters; the pieces never contain the separator.
-/
namespace HostStorage.Text

/-- The pieces between the characters that satisfy `p`; there is always at least one. -/
def fields (p : Char → Bool) : List Char → List (List Char)
  | [] => [[]]
  | c :: r =>
    if p c then [] :: fields p r
    else match fields p r with
      | [] => [[c]]
      | w :: ws => (c :: w) :: ws

/-- The non-empty pieces between blanks. -/
def words (cs : List Char) : List (List Char) := (fields isBlank cs).filter (!·.isEmpty)

/-- The text without one final `c`. -/
def dropFinal (c : Char) (cs : List Char) : List Char :=
  if cs.getLast? = some c then cs.dropLast else cs

/-- The lines of a text: each ends at a newline, before which one carriage return is dropped; a
last line without newline is kept as it stands unless it is empty. -/
def lines (cs : List Char) : List (List Char) :=
  let pieces := fields (· == '\n') cs
  let ended := pieces.dropLast.map (dropFinal '\r')
  match pieces.getLast? with
  | none | some [] => ended
  | some last => ended ++ [last]

/-- The text before and after the first occurrence of `marker`. -/
def cut? (marker : List Char) : List Char → Option (List Char × List Char)
  | [] => if marker.isEmpty then some ([], []) else none
  | c :: r =>
    match marker.isPrefixOf? (c :: r) with
    | some rest => some ([], rest)
    | none => (cut? marker r).map fun p => (c :: p.1, p.2)

def occursIn (piece cs : List Char) : Bool := (cut? piece cs).isSome

def replaceFirst (old new cs : List Char) : List Char :=
  match cut? old cs with
  | some (before, after) => before ++ new ++ after
  | none => cs

/-- The text without `start` in front, if it stands there. -/
def withoutStart (start cs : List Char) : List Char := (start.isPrefixOf? cs).getD cs

def join (sep : List Char) (pieces : List (List Char)) : List Char := sep.intercalate pieces

/-- `fields` at one separator character, on strings. -/
def splitAt (sep : Char) (s : String) : List String :=
  (fields (· == sep) s.toList).map String.ofList

def joined (sep : String) (pieces : List String) : String :=
  String.ofList (join sep.toList (pieces.map String.toList))

def linesOf (s : String) : List String := (lines s.toList).map String.ofList

def wordsOf (s : String) : List String := (words s.toList).map String.ofList

def startsWith (s start : String) : Bool := start.toList.isPrefixOf s.toList

def endsWith (s ending : String) : Bool := ending.toList.isSuffixOf s.toList

def mentions (s piece : String) : Bool := occursIn piece.toList s.toList

def without (start s : String) : String := String.ofList (withoutStart start.toList s.toList)

theorem fields_ne_nil (p : Char → Bool) (cs : List Char) : fields p cs ≠ [] := by
  cases cs with
  | nil => simp [fields]
  | cons c r =>
    simp only [fields]
    split
    · simp
    · split <;> simp

end HostStorage.Text
