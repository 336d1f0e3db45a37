import HostStorage.Text.Split

/-!
# Options and arguments of `mount`

Options as callers give them: blank ones and repetitions are dropped when the arguments are built,
`bind` asks for a mount in two steps, and a last option may carry arguments for making the file
system.
-/
namespace HostStorage

/-- Adds a trimmed option unless it is blank or there already. -/
def addOption (options : List String) (option : String) : List String :=
  let option := Text.trimmed option
  if option.isEmpty || options.contains option then options else options ++ [option]

/-- The trimmed options without blanks and repetitions, in the order of their first occurrence. -/
def distinctOptions (options : List String) : List String := options.foldl addOption []

/-- The arguments `[-t <type>] [-o <options>] [<source>] <target>`. -/
def mountArguments (source target fsType : String) (options : List String) : List String :=
  let distinct := distinctOptions options
  (if fsType.isEmpty then [] else ["-t", fsType]) ++
    (if distinct.isEmpty then [] else ["-o", Text.joined "," distinct]) ++
    (if source.isEmpty then [] else [source]) ++ [target]

def asksBind (options : List String) : Bool := options.contains "bind"

/-- The options of the mount that follows a bind mount: `remount` and all others that are not about
binding. -/
def remountOptions (options : List String) : List String :=
  "remount" :: options.filter fun o => o != "bind" && o != "remount"

/-- The mark of an option that carries arguments for making the file system. -/
def formatOptionMark : String := "fsFormatOption:"

/-- The options without a last one that carries format arguments, and those arguments. -/
def splitFormatOption (options : List String) : List String × List String :=
  match options.getLast? with
  | some last =>
    match formatOptionMark.toList.isPrefixOf? last.toList with
    | some raw => (options.dropLast, (Text.words raw).map String.ofList)
    | none => (options, [])
  | none => (options, [])

end HostStorage
