import HostStorage.Error
import HostStorage.Mount.Record

/-!
# Mounts as macOS prints them

One mount a line, `<device> on <path> (<type>, <option>, ...)`. The device and the path reach as
far to the right as the rest of the line allows. Lines of another form, and mounts whose device is
no path, are skipped.
-/
namespace HostStorage.PrintedMount

/-- The rightmost cut at `marker` that leaves text behind it; there is none if no text is in front
of it. -/
def lastCut? (marker cs : List Char) : Option (List Char × List Char) :=
  match cs.reverse with
  | [] => none
  | last :: r =>
    match Text.cut? marker.reverse r with
    | some (behind, front) =>
      if front.isEmpty then none else some (front.reverse, (last :: behind).reverse)
    | none => none

/-- The device, the path and the text in parentheses of a line. -/
def parts? (line : List Char) : Option (String × String × String) :=
  if line.getLast? = some ')' then do
    let (mount, inner) ← lastCut? [' ', '('] line.dropLast
    let (device, path) ← lastCut? [' ', 'o', 'n', ' '] mount
    return (String.ofList device, String.ofList path, String.ofList inner)
  else none

/-- The record of a line, unless the line is skipped. -/
def parseLine (line : String) : Except StorageError (Option MountRecord) :=
  match parts? line.toList with
  | none => .ok none
  | some (device, path, inner) =>
    if Text.startsWith device "/" then
      match (Text.splitAt ',' inner).map Text.trimmed with
      | fsType :: options =>
        if fsType.isEmpty then .error (.malformed ("mount options for " ++ device))
        else .ok (some ⟨device, path, device, fsType, options⟩)
      | [] => .error (.malformed ("mount options for " ++ device))
    else .ok none

def parse (output : String) : Except StorageError (List MountRecord) := do
  let found ← (Text.linesOf output).mapM parseLine
  return found.filterMap id

end HostStorage.PrintedMount
