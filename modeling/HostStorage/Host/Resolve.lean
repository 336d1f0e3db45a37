import HostStorage.Host.Errno
import HostStorage.Host.Tree
import HostStorage.Path.Join

/-!
# Resolving paths

The way the kernel takes: name by name from the root, each step from a directory, through symbolic
links, of which at most forty are followed. A separator at the end is a step to the place itself,
so it requires a directory and follows a link in front of it. A path has a limit as it is written.
Finding the canonical place goes the same way, but asks for each place by its own path, so the
limit is on those paths.
-/
namespace HostStorage

open HostStorage.Path (Name Place)

/-- One step on the way of a path; unlike `Path.Step`, staying is a step, since it needs a
directory. -/
inductive Hop where
  | stay | up | down (name : Name)
  deriving DecidableEq, Repr

def Hop.ofPiece (piece : Name) : Hop :=
  if piece = [] ∨ piece = ['.'] then .stay
  else if piece = ['.', '.'] then .up
  else .down piece

def hops (path : String) : List Hop := (Text.fields (· == '/') path.toList).map Hop.ofPiece

/-- The place where a link's target starts. -/
def linkStart (here : Place) (target : String) : Place :=
  if Path.isAbsolute target then [] else here

namespace HostTree

def maxLinks : Nat := 40

def maxName : Nat := 255

/-- The number of octets in a path that is too long. -/
def pathLimit : Nat := 4096

def pathSize (p : Place) : Nat := (Utf8.bytes (pathOf p)).length

/-- Whether an entry cannot be asked for: its name is too long, or its path is not shorter than
`reach`. -/
def isTooLong (reach : Option Nat) (p : Place) (name : Name) : Bool :=
  maxName < (Utf8.encode name).length || reach.any (· ≤ pathSize (p ++ [name]))

/-- Walks from `here`, following at most `links` links; the last link is followed on demand. The
paths of the places on the way are shorter than `reach`, if it is given. -/
def walk (t : HostTree) (follow : Bool) (reach : Option Nat) (links : Nat) (here : Place) :
    List Hop → Except IoFailure Place
  | [] => .ok here
  | hop :: rest =>
    match t.node? here with
    | none => .error (.os .noEntry)
    | some .directory =>
      match hop with
      | .stay => walk t follow reach links here rest
      | .up => walk t follow reach links here.dropLast rest
      | .down name =>
        if isTooLong reach here name then .error (.os .nameTooLong)
        else match t.node? (here ++ [name]) with
          | none => .error (.os .noEntry)
          | some (.link target) =>
            if rest.isEmpty && !follow then .ok (here ++ [name])
            else match links with
              | 0 => .error (.os .linkLoop)
              | left + 1 =>
                walk t follow reach left (linkStart here target) (hops target ++ rest)
          | some _ => walk t follow reach links (here ++ [name]) rest
    | some _ => .error (.os .notDirectory)
termination_by way => (links, way.length)

/-- The steps of a path that is not empty and has no NUL character. -/
def way (path : String) : Except IoFailure (List Hop) :=
  if path.toList.any (·.toNat == 0) then .error .nulInPath
  else if path.isEmpty then .error (.os .noEntry)
  else .ok (hops path)

def resolve (t : HostTree) (follow : Bool) (path : String) : Except IoFailure Place := do
  let steps ← way path
  if pathLimit ≤ (Utf8.bytes path).length then .error (.os .nameTooLong)
  else t.walk follow none maxLinks [] steps

/-- The place that a path leads to, asking for each place on the way by its own path. -/
def canonicalPlace (t : HostTree) (path : String) : Except IoFailure Place := do
  let steps ← way path
  t.walk true (some pathLimit) maxLinks [] steps

end HostTree
end HostStorage
