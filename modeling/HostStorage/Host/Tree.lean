import HostStorage.Command.Process
import HostStorage.Path.Route

/-!
# The files of a host

A tree lists named nodes and what lies below each: directories, regular files, symbolic links,
device nodes and executable tools. A place is reached by its names from the root, which is a
directory of every tree; where a name occurs twice, the first entry counts. Appending to a file
changes the content of that file and nothing else.
-/
namespace HostStorage

open HostStorage.Path (Name Place)

/-- What stands at a place. A tool lists what its runs do, the first run first. -/
inductive Node where
  | directory
  | file (content : Bytes)
  | link (target : String)
  | device
  | tool (runs : List ProcessRun)
  deriving DecidableEq, Repr

/-- The files of a host, as the entries of its root: a named node with the entries below it and the
entries beside it. -/
inductive HostTree where
  | empty
  | entry (name : Name) (node : Node) (below beside : HostTree)
  deriving DecidableEq, Repr

namespace HostTree

/-- What stands at a place. -/
def node? : HostTree → Place → Option Node
  | _, [] => some .directory
  | .empty, _ :: _ => none
  | .entry m node below beside, name :: deeper =>
    if m = name then if deeper = [] then some node else below.node? deeper
    else beside.node? (name :: deeper)

@[simp] theorem node?_nil (t : HostTree) : t.node? [] = some .directory := by
  cases t <;> rfl

def entriesAt : HostTree → Place → HostTree
  | t, [] => t
  | .empty, _ :: _ => .empty
  | .entry m _ below beside, name :: deeper =>
    if m = name then below.entriesAt deeper else beside.entriesAt (name :: deeper)

@[simp] theorem entriesAt_nil (t : HostTree) : t.entriesAt [] = t := by
  cases t <;> rfl

/-- A place below another one is the same place seen from there. -/
theorem node?_entriesAt (t : HostTree) (p : Place) {q : Place} (h : q ≠ []) :
    (t.entriesAt p).node? q = t.node? (p ++ q) := by
  induction t generalizing p with
  | empty => cases p <;> cases q <;> simp_all [entriesAt, node?]
  | entry m node below beside ih_below ih_beside =>
    cases p with
    | nil => simp
    | cons name deeper =>
      by_cases hm : m = name
      · simp [entriesAt, node?, hm, h, ih_below]
      · simp [entriesAt, node?, hm, ih_beside]

/-- The tree that has a node at a place, directories above it and nothing else. -/
def alone : Place → Node → HostTree
  | [], _ => .empty
  | [name], n => .entry name n .empty .empty
  | name :: deeper, n => .entry name .directory (alone deeper n) .empty

theorem node?_alone {p : Place} (n : Node) (h : p ≠ []) : (alone p n).node? p = some n := by
  fun_induction alone p n with
  | case1 => contradiction
  | case2 => simp [node?]
  | case3 name deeper n hd ih =>
    have : deeper ≠ [] := fun he => hd he
    simp [node?, this, ih this]

/-- The tree with a node put at a place and with directories above it. What lay below the place
stays below a directory only. -/
def put : HostTree → Place → Node → HostTree
  | t, [], _ => t
  | .empty, name :: deeper, n => alone (name :: deeper) n
  | .entry m node below beside, name :: deeper, n =>
    if m = name then
      if deeper = [] then .entry m n (if n = .directory then below else .empty) beside
      else .entry m node (below.put deeper n) beside
    else .entry m node below (beside.put (name :: deeper) n)

/-- A node that was put at a place stands there. -/
theorem node?_put (t : HostTree) {p : Place} (n : Node) (h : p ≠ []) :
    (t.put p n).node? p = some n := by
  induction t generalizing p with
  | empty =>
    cases p with
    | nil => contradiction
    | cons name deeper => exact node?_alone n h
  | entry m node below beside ih_below ih_beside =>
    cases p with
    | nil => contradiction
    | cons name deeper =>
      by_cases hm : m = name
      · by_cases hd : deeper = []
        · simp [put, node?, hm, hd]
        · simp [put, node?, hm, hd, ih_below hd]
      · simp [put, node?, hm, ih_beside]

def remove : HostTree → Place → HostTree
  | _, [] => .empty
  | .empty, _ :: _ => .empty
  | .entry m node below beside, name :: deeper =>
    if m = name then
      if deeper = [] then beside.remove [name]
      else .entry m node (below.remove deeper) beside
    else .entry m node below (beside.remove (name :: deeper))

/-- Nothing stands at a place after its removal. -/
theorem node?_remove (t : HostTree) {p : Place} (h : p ≠ []) : (t.remove p).node? p = none := by
  induction t generalizing p with
  | empty =>
    cases p with
    | nil => contradiction
    | cons name deeper => rfl
  | entry m node below beside ih_below ih_beside =>
    cases p with
    | nil => contradiction
    | cons name deeper =>
      by_cases hm : m = name
      · by_cases hd : deeper = []
        · simp [remove, hm, hd, ih_beside]
        · simp [remove, node?, hm, hd, ih_below hd]
      · simp [remove, node?, hm, ih_beside]

/-- The tree without what lies below a place. -/
def cleared : HostTree → Place → HostTree
  | _, [] => .empty
  | .empty, _ :: _ => .empty
  | .entry m node below beside, name :: deeper =>
    if m = name then .entry m node (below.cleared deeper) beside
    else .entry m node below (beside.cleared (name :: deeper))

def rootNames : HostTree → List Name
  | .empty => []
  | .entry m _ _ beside => m :: beside.rootNames

/-- The names of the entries are those under which something stands. -/
theorem mem_rootNames_iff {t : HostTree} {name : Name} :
    name ∈ t.rootNames ↔ (t.node? [name]).isSome := by
  induction t with
  | empty => simp [rootNames, node?]
  | entry m node below beside _ ih =>
    by_cases hm : m = name
    · simp [rootNames, node?, hm]
    · simp [rootNames, node?, hm, Ne.symm hm, ih]

/-- Whether a name stands before another or is the same, by code points. -/
def nameLe : Name → Name → Bool
  | [], _ => true
  | _ :: _, [] => false
  | c :: r, d :: s => c.toNat < d.toNat || (c == d && nameLe r s)

/-- The names of the entries of a directory, in order. -/
def childNames (t : HostTree) (p : Place) : List Name := (t.entriesAt p).rootNames.mergeSort nameLe

/-- The node with octets added at the end of its content; other nodes than files take them and stay
as they are. -/
def grown (more : Bytes) : Node → Node
  | .file content => .file (content ++ more)
  | n => n

def append : HostTree → Place → Bytes → HostTree
  | t, [], _ => t
  | .empty, _ :: _, _ => .empty
  | .entry m node below beside, name :: deeper, more =>
    if m = name then
      if deeper = [] then .entry m (grown more node) below beside
      else .entry m node (below.append deeper more) beside
    else .entry m node below (beside.append (name :: deeper) more)

/-- Adding octets shows at the place, if something stands there, and nowhere else. -/
theorem node?_append (t : HostTree) (p : Place) (more : Bytes) (q : Place) :
    (t.append p more).node? q =
      (t.node? q).map fun n => if q = p then grown more n else n := by
  induction t generalizing p q with
  | empty => cases p <;> cases q <;> simp [append, node?, grown]
  | entry m node below beside ih_below ih_beside =>
    cases p with
    | nil => cases q <;> simp [append, grown]
    | cons name deeper =>
      cases q with
      | nil => simp
      | cons other further =>
        by_cases hm : m = name <;> by_cases ho : m = other
        · subst hm ho
          by_cases hd : deeper = [] <;> by_cases hf : further = [] <;>
            simp [append, node?, hd, hf, ih_below, Ne.symm]
        · subst hm
          by_cases hd : deeper = [] <;> simp [append, node?, hd, ho, Ne.symm ho]
        · subst ho
          simp [append, node?, hm]
        · simp [append, node?, hm, ho, ih_beside]

def pathOf (p : Place) : String := String.ofList ('/' :: Text.join ['/'] p)

/-- The regular files with their contents, seen from a place at which the entries lie. -/
def filesFrom (here : Place) : HostTree → List (Place × Bytes)
  | .empty => []
  | .entry m node below beside =>
    let inside := below.filesFrom (here ++ [m]) ++ beside.filesFrom here
    match node with
    | .file content => (here ++ [m], content) :: inside
    | _ => inside

def files (t : HostTree) : List (Place × Bytes) := t.filesFrom []

end HostTree
end HostStorage
