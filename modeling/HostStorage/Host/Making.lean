import HostStorage.Host.Resolve

/-!
# Making and removing

Whoever prepares the files of a host names them by path. What is missing on the way is made as
directories, links on the way are followed, and a file or a link at the end is replaced; a
directory is never replaced. The null device is on every host that is prepared.
-/
namespace HostStorage

open HostStorage.Path (Name Place)

namespace HostTree

/-- The tree with directories where the steps from `here` lead, and the place where they end. -/
def withWay (t : HostTree) (here : Place) : List Hop → Except IoFailure (HostTree × Place)
  | [] => .ok (t, here)
  | .stay :: rest => t.withWay here rest
  | .up :: rest => t.withWay here.dropLast rest
  | .down name :: rest =>
    if isTooLong none here name then .error (.os .nameTooLong)
    else match t.node? (here ++ [name]) with
      | none => (t.put (here ++ [name]) .directory).withWay (here ++ [name]) rest
      | some _ =>
        match t.walk true none maxLinks here [.down name] with
        | .error failure => .error failure
        | .ok next =>
          if t.node? next = some .directory then t.withWay next rest
          else .error (.os .notDirectory)

/-- The tree with a node at the end of a path. A directory that is there already stays. -/
def made (t : HostTree) (path : String) (node : Node) : Except IoFailure HostTree := do
  let steps ← way path
  if pathLimit ≤ (Utf8.bytes path).length then .error (.os .nameTooLong)
  else if node = .directory then .ok (← t.withWay [] steps).1
  else match steps.getLast? with
    | some (.down name) =>
      let (t, here) ← t.withWay [] steps.dropLast
      if isTooLong none here name then .error (.os .nameTooLong)
      else if t.node? (here ++ [name]) = some .directory then .error (.os .isDirectory)
      else .ok (t.put (here ++ [name]) node)
    | _ => .error (.os .isDirectory)

def withoutFinalSlashes (path : String) : String :=
  String.ofList (path.toList.reverse.dropWhile (· == '/')).reverse

/-- Whether a path ends in the name of what stands at a place, and not in a way or a link there. -/
def endsInName (t : HostTree) (path : String) (place : Place) : Bool :=
  let path := withoutFinalSlashes path
  match (hops path).getLast?, t.resolve false path with
  | some (.down _), .ok other => other == place
  | _, _ => false

/-- The tree without what a path names. A link is removed and not what it leads to. A directory
that the path does not end in by name only loses its entries. -/
def removed (t : HostTree) (path : String) : Except IoFailure HostTree := do
  let place ← t.resolve false path
  match t.node? place with
  | none => .error (.os .noEntry)
  | some .directory =>
    .ok (if t.endsInName path place then t.remove place else t.cleared place)
  | some _ => .ok (t.remove place)

/-- The path of the device that takes everything and holds nothing. -/
def nullDevice : String := "/dev/null"

/-- The tree with the null device, where nothing hinders making it. -/
def withNullDevice (t : HostTree) : HostTree := (t.made nullDevice .device).toOption.getD t

/-- The tree of a host on which nothing but the null device was made. -/
def bare : HostTree := withNullDevice .empty

end HostTree
end HostStorage
