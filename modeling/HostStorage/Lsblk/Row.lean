import HostStorage.Text.Split

/-!
# Device rows

A device listing has one line per device with pairs `KEY="VALUE"`, parents above their children. A
row keeps the name, the kind and the mount point of a device, and the line itself, in which device
identifiers are looked for.
-/
namespace HostStorage

structure DeviceRow where
  name : String := ""
  kind : String := ""
  mountPoint : String := ""
  line : String
  deriving DecidableEq, Repr

namespace DeviceRow

/-- Characters of a key after its first. -/
def isKeyChar (c : Char) : Bool :=
  c.isUpper || c.isDigit || c == ':' || c == '_' || c == '-'

/-- The pair whose key starts with `c`, and the text after the pair. -/
def pairAt? (c : Char) (r : List Char) : Option ((List Char × List Char) × List Char) :=
  if c.isUpper then
    match r.dropWhile isKeyChar with
    | '=' :: '"' :: v =>
      match v.dropWhile (· != '"') with
      | '"' :: after => some ((c :: r.takeWhile isKeyChar, v.takeWhile (· != '"')), after)
      | _ => none
    | _ => none
  else none

/-- The text after a pair is shorter than the text before it. -/
theorem pairAt?_length {c : Char} {r after : List Char} {p : List Char × List Char}
    (h : pairAt? c r = some (p, after)) : after.length < r.length := by
  unfold pairAt? at h
  split at h
  · split at h
    next v hv =>
      split at h
      next a ha =>
        obtain ⟨-, rfl⟩ := Prod.mk.inj (Option.some.inj h)
        have h1 := (List.dropWhile_sublist (l := r) isKeyChar).length_le
        have h2 := (List.dropWhile_sublist (l := v) (· != '"')).length_le
        rw [hv] at h1
        rw [ha] at h2
        simp only [List.length_cons] at h1 h2
        omega
      · cases h
    · cases h
  · cases h

/-- The pairs of a line, from the left. -/
def pairs : List Char → List (List Char × List Char)
  | [] => []
  | c :: r =>
    match _h : pairAt? c r with
    | some (p, after) => p :: pairs after
    | none => pairs r
termination_by cs => cs.length
decreasing_by
  · have := pairAt?_length _h
    simp only [List.length_cons]
    omega
  · simp

/-- The value of the last pair with one of the keys. -/
def lastValue (keys : List String) (ps : List (List Char × List Char)) : String :=
  match (ps.filter fun p => keys.contains (String.ofList p.1)).getLast? with
  | some p => String.ofList p.2
  | none => ""

def ofLine (line : String) : DeviceRow :=
  let ps := pairs line.toList
  { name := lastValue ["NAME"] ps
    kind := lastValue ["TYPE"] ps
    mountPoint := lastValue ["MOUNTPOINT", "MOUNTPOINTS"] ps
    line }

/-- Reads a listing; blank lines are no rows. -/
def ofListing (output : String) : List DeviceRow :=
  ((Text.linesOf output).filter fun l => !Text.allBlank l.toList).map ofLine

def mentions (id : String) (row : DeviceRow) : Bool := Text.mentions row.line id

/-- Whether the line has `ancestor`, then at least one character, then the identifier. -/
def mentionsBelow (ancestor id : String) (row : DeviceRow) : Bool :=
  match Text.cut? ancestor.toList row.line.toList with
  | some (_, _ :: rest) => Text.occursIn id.toList rest
  | _ => false

/-- The rows that mention `id`, each after the row above it unless that row mentions it too. -/
def withParents (id : String) (above : Option DeviceRow) : List DeviceRow → List DeviceRow
  | [] => []
  | row :: rest =>
    let here :=
      if row.mentions id then (above.filter (!mentions id ·)).toList ++ [row] else []
    here ++ withParents id (some row) rest

/-- The rows that mention `id`, each with the row below it; `due` rows are still to be taken. -/
def withChildren (id : String) (due : Nat) : List DeviceRow → List DeviceRow
  | [] => []
  | row :: rest =>
    match if row.mentions id then 2 else due with
    | 0 => withChildren id 0 rest
    | left + 1 => row :: withChildren id left rest

end DeviceRow
end HostStorage
