import HostStorage.Path.Route

/-!
# Composing paths

Paths below a directory, and the last name of a path.
-/
namespace HostStorage.Path

def isAbsolute (s : String) : Bool := Text.startsWith s "/"

/-- The path `name` seen from the directory `base`; an absolute `name` stands for itself. -/
def below (base name : String) : String :=
  if isAbsolute name then name
  else if base.isEmpty || Text.endsWith base "/" then base ++ name
  else base ++ "/" ++ name

/-- The path of an absolute path `s` in a tree whose root is `root`. -/
def rebased (root s : String) : String := below root (Text.without "/" s)

/-- The name at the end of a path, unless the path ends by going up or at its start. -/
def lastName? (s : String) : Option String :=
  match (Route.ofPath s.toList).steps.getLast? with
  | some (.down n) => some (String.ofList n)
  | _ => none

/-- The text after the last separator. -/
def afterSlash (s : String) : String := (Text.splitAt '/' s).getLastD ""

end HostStorage.Path
