import HostStorage.Text.Split

/-!
# Paths as routes

A path is a route through a tree of directories: it starts at the root or at the current place, and
each of its steps goes up or down to a name. Separators may be repeated, and the step to the
current place itself vanishes. Cleaning a path cancels each way down against the way up after it;
the cleaned path is the shortest way of writing the route.
-/
namespace HostStorage.Path

abbrev Name := List Char

inductive Step where
  | up | down (name : Name)
  deriving DecidableEq, Repr

/-- A route, from the root or from the current place. -/
structure Route where
  absolute : Bool
  steps : List Step
  deriving DecidableEq, Repr

/-- The step that a piece between separators stands for. -/
def step? (piece : Name) : Option Step :=
  if piece = [] ∨ piece = ['.'] then none
  else if piece = ['.', '.'] then some .up
  else some (.down piece)

def Route.ofPath (cs : List Char) : Route :=
  ⟨cs.head? == some '/', (Text.fields (· == '/') cs).filterMap step?⟩

def Step.name : Step → Name
  | .up => ['.', '.']
  | .down n => n

/-- The shortest writing of a route. -/
def Route.toPath (r : Route) : List Char :=
  let written := Text.join ['/'] (r.steps.map Step.name)
  if r.absolute then '/' :: written
  else if r.steps.isEmpty then ['.']
  else written

/-- Adds a step to a reduced route whose last step is at the head. Above the root is the root. -/
def push (absolute : Bool) (done : List Step) : Step → List Step
  | .down n => .down n :: done
  | .up =>
    match done with
    | .down _ :: before => before
    | [] => if absolute then [] else [.up]
    | .up :: _ => .up :: done

/-- The route without detours. -/
def Route.reduced (r : Route) : Route :=
  { r with steps := (r.steps.foldl (push r.absolute) []).reverse }

/-- The path with its route reduced. -/
def clean (cs : List Char) : List Char := (Route.ofPath cs).reduced.toPath

def cleaned (s : String) : String := String.ofList (clean s.toList)

/-- A place in a tree of directories: the names from the root. -/
abbrev Place := List Name

/-- The place after a step; above the root is the root. -/
def Step.from (place : Place) : Step → Place
  | .up => place.dropLast
  | .down n => place ++ [n]

def Route.walk (r : Route) (start : Place) : Place :=
  r.steps.foldl Step.from (if r.absolute then [] else start)

end HostStorage.Path
