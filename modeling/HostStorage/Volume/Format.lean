import HostStorage.Text.Split

/-!
# Making file systems and recognising them

The arguments of the tools that make a file system, and the reading of the list of types that
`lsblk` prints for a disk and its children.
-/
namespace HostStorage

def defaultFsType : String := "ext4"

/-- The type to make: the requested one, or the default for an empty request. -/
def fsTypeOrDefault (fsType : String) : String :=
  if fsType.isEmpty then defaultFsType else fsType

/-- What is reported for a disk that has children but no file system of its own. -/
def partitionedFormat : String := "unknown data, probably partitions"

def isExt (fsType : String) : Bool := fsType == "ext4" || fsType == "ext3"

def isXfs (fsType : String) : Bool := fsType == "xfs"

def noDiscardFlags (fsType : String) : List String :=
  if isExt fsType then ["-E", "nodiscard"] else if isXfs fsType then ["-K"] else []

/-- The arguments of the tool that makes a file system on `source`. The caller's arguments replace
the usual ones: force for the ext family, no checksums for xfs. -/
def mkfsArguments (fsType source : String) (formatOptions : List String) (noDiscard : Bool) :
    List String :=
  let usual := formatOptions.isEmpty
  formatOptions ++
    (if usual && isExt fsType then ["-F"] else []) ++
    (if noDiscard then noDiscardFlags fsType else []) ++ [source] ++
    (if usual && isXfs fsType then ["-m", "crc=0"] else [])

/-- The format that a list of types tells: the first line is the disk's own type, further lines
belong to its children. -/
def diskFormatOf (output : String) : String :=
  let rows := Text.fields (· == '\n') (Text.dropFinal '\n' output.toList)
  match rows with
  | [] => ""
  | first :: children =>
    let own := Text.trim first
    if !own.isEmpty then String.ofList own
    else if children.isEmpty then ""
    else partitionedFormat

end HostStorage
