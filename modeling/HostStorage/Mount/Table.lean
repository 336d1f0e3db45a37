import HostStorage.Error
import HostStorage.Mount.Octal
import HostStorage.Mount.Record
import HostStorage.Path.Route
import HostStorage.Text.DecimalDigit

/-!
# The kernel's mount table

Each line has identifiers, a root, a mount point, options and optional fields, then a lone dash,
then a type, a source and further options. A scan turns an entry into a record or drops it; it
remembers the entries that it kept, so that a second mount of the same source is recognised as a
bind mount of a directory below the first.
-/
namespace HostStorage

def optionList (field : String) : List String := Text.splitAt ',' field

def MountEntry.parse (line : String) : Except StorageError MountEntry :=
  match Text.cut? [' ', '-', ' '] line.toList with
  | none => .error (.malformed ("mountinfo line without separator: " ++ line))
  | some (before, after) =>
    match (Text.words before).map String.ofList, (Text.words after).map String.ofList with
    | mountId :: parentId :: majorMinor :: root :: mountPoint :: options :: optional,
      fsType :: source :: more =>
      .ok {
        mountId, parentId, majorMinor
        root := Octal.decoded root
        mountPoint := Octal.decoded mountPoint
        mountOptions := optionList options
        optionalFields := optional
        fsType
        mountSource := Octal.decoded source
        superOptions := (more.head?.map optionList).getD [] }
    | _, _ => .error (.malformed ("truncated mountinfo line: " ++ line))

/-- The first entry kept for each source, in the order of their keeping. -/
abbrev KeptEntries := List (String × MountEntry)

/-- What becomes of an entry: a record or nothing, and the entries kept from then on. -/
abbrev EntryScan :=
  MountEntry → KeptEntries → Except StorageError (Option MountRecord × KeptEntries)

namespace EntryScan

/-- Whether a character is the given small letter in either case; the long s is an s. -/
def isLetter (letter c : Char) : Bool :=
  c.toLower == letter || (letter == 's' && c == 'ſ')

/-- What follows a word in small letters, in any case. -/
def afterWord? : List Char → List Char → Option (List Char)
  | [], cs => some cs
  | w :: ws, c :: cs => if isLetter w c then afterWord? ws cs else none
  | _ :: _, [] => none

/-- Types of file systems without a block device that are kept all the same: the device file
system, everything in user space, and network file systems with at most one version digit. -/
def isPseudoType (fsType : List Char) : Bool :=
  afterWord? ['d', 'e', 'v', 't', 'm', 'p', 'f', 's'] fsType == some [] ||
  (match afterWord? ['f', 'u', 's', 'e', '.'] fsType with
    | some rest => rest.all (· != '\n')
    | none => false) ||
  (match afterWord? ['n', 'f', 's'] fsType with
    | some [] => true
    | some [d] => Text.isDecimalDigit d
    | _ => false)

def keeps (e : MountEntry) : Bool :=
  isPseudoType e.fsType.toList || Text.startsWith e.mountSource "/"

def record (e : MountEntry) (source : String) : MountRecord :=
  ⟨e.mountSource, e.mountPoint, source, e.fsType, e.mountOptions⟩

/-- Keeps mounts of devices and of the pseudo types. A source that was kept before is mounted again
from a directory below its first mount point. -/
def usual : EntryScan := fun e kept =>
  if keeps e then
    match kept.lookup e.mountSource with
    | some first =>
      .ok (some (record e (Path.cleaned (first.mountPoint ++ "/" ++ e.root))), kept)
    | none => .ok (some (record e e.mountSource), kept ++ [(e.mountSource, e)])
  else .ok (none, kept)

end EntryScan

/-- The records of the lines of a table, given the entries kept so far. -/
def mountRecordsFrom (scan : EntryScan) (kept : KeptEntries) :
    List String → Except StorageError (List MountRecord)
  | [] => .ok []
  | line :: rest =>
    if Text.allBlank line.toList then mountRecordsFrom scan kept rest
    else do
      let entry ← MountEntry.parse line
      let (found, kept) ← scan entry kept
      let more ← mountRecordsFrom scan kept rest
      return found.toList ++ more

def mountRecords (scan : EntryScan) (table : String) : Except StorageError (List MountRecord) :=
  mountRecordsFrom scan [] (Text.linesOf table)

end HostStorage
