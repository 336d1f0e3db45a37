import HostStorage.Path.Join
import HostStorage.Proofs.Text.Pieces

/-!
# Where a path leads

A path is walked component by component, without looking at any tree. `placeFrom` says so of the
text alone and knows nothing of steps or routes; it ends where the route of the path ends. A route
whose names can stand between separators is read back from its writing. The last name of a path is
the one after which no component moves (`EndsWith`).
-/
namespace HostStorage.Path

/-- The place after one component. The empty component and `.` stay, `..` goes up and stays at the
root, a name descends. -/
def enter (place : Place) (component : Name) : Place :=
  if component = [] ∨ component = ['.'] then place
  else if component = ['.', '.'] then place.dropLast
  else place ++ [component]

/-- The place where the walk of a path ends; an absolute path starts at the root. -/
def placeFrom (start : Place) (path : String) : Place :=
  (path.toList.splitOn '/').foldl enter (if isAbsolute path then [] else start)

/-- The place where the components of a path lead, a separator in front of them or not. -/
def walkOn (start : Place) (path : String) : Place := (path.toList.splitOn '/').foldl enter start

structure IsName (name : Name) : Prop where
  notEmpty : name ≠ []
  notHere : name ≠ ['.']
  notUp : name ≠ ['.', '.']
  whole : '/' ∉ name

instance (name : Name) : Decidable (IsName name) :=
  decidable_of_iff (name ≠ [] ∧ name ≠ ['.'] ∧ name ≠ ['.', '.'] ∧ '/' ∉ name)
    ⟨fun ⟨a, b, c, d⟩ => ⟨a, b, c, d⟩, fun ⟨a, b, c, d⟩ => ⟨a, b, c, d⟩⟩

/-- A step that stands for itself when it is written. -/
def Step.IsWritable : Step → Prop
  | .up => True
  | .down name => IsName name

def Route.IsWritable (r : Route) : Prop := ∀ s ∈ r.steps, s.IsWritable

theorem step?_eq_some_iff {piece : Name} (whole : '/' ∉ piece) {s : Step} :
    step? piece = some s ↔ s.name = piece ∧ s.IsWritable := by
  unfold step?
  split
  next stays =>
    cases s with
    | up =>
      have other : ['.', '.'] ≠ piece := by
        rintro rfl
        simp at stays
      simp [Step.name, other]
    | down name =>
      have noName : ¬ (name = piece ∧ IsName name) := by
        rintro ⟨rfl, isName⟩
        exact stays.elim isName.notEmpty isName.notHere
      simpa [Step.name, Step.IsWritable] using noName
  next moves =>
    have notEmpty : piece ≠ [] := fun empty => moves (Or.inl empty)
    have notHere : piece ≠ ['.'] := fun here => moves (Or.inr here)
    split
    next up =>
      cases s with
      | up => simp [Step.name, Step.IsWritable, up]
      | down name =>
        have noName : ¬ (name = piece ∧ IsName name) := by
          rintro ⟨rfl, isName⟩
          exact isName.notUp up
        simpa [Step.name, Step.IsWritable] using noName
    next notUp =>
      cases s with
      | up => simpa [Step.name, Step.IsWritable] using Ne.symm notUp
      | down name =>
        have isName : IsName piece := ⟨notEmpty, notHere, notUp, whole⟩
        constructor
        · intro same
          cases same
          exact ⟨rfl, isName⟩
        · rintro ⟨same, _⟩
          rw [← show name = piece from same]

theorem Step.IsWritable.notMem_name {s : Step} (writable : s.IsWritable) : '/' ∉ s.name := by
  cases s with
  | up => decide
  | down name => exact writable.whole

theorem Step.IsWritable.name_ne_nil {s : Step} (writable : s.IsWritable) : s.name ≠ [] := by
  cases s with
  | up => decide
  | down name => exact writable.notEmpty

theorem isAbsolute_iff (path : String) : isAbsolute path = true ↔ path.toList.head? = some '/' := by
  unfold isAbsolute Text.startsWith
  change ['/'].isPrefixOf path.toList = true ↔ _
  cases path.toList with
  | nil => simp
  | cons c r =>
    have sides : ('/' = c) ↔ (c = '/') := eq_comm
    simp [List.isPrefixOf, sides]

/-- The route of a path is written with names that have no separator. -/
theorem isWritable_ofPath (cs : List Char) : (Route.ofPath cs).IsWritable := by
  intro s listed
  obtain ⟨piece, isPiece, reads⟩ := List.mem_filterMap.1 listed
  have whole : '/' ∉ piece := by
    intro separator
    have noSeparator := Text.not_of_mem_fields isPiece '/' separator
    simp at noSeparator
  exact ((step?_eq_some_iff whole).1 reads).2

/-- The components of a path lead where its steps do. -/
theorem walkOn_eq_foldl (start : Place) (path : String) :
    walkOn start path = (Route.ofPath path.toList).steps.foldl Step.from start := by
  have enters : ∀ (place : Place) (component : Name),
      enter place component = (step? component).elim place (·.from place) := by
    intro place component
    unfold enter step?
    split
    · rfl
    · split <;> rfl
  have pieces : path.toList.splitOn '/' = Text.fields (· == '/') path.toList :=
    (Text.fields_eq_splitOnP _ _).symm
  rw [walkOn, pieces]
  simp only [Route.ofPath, List.foldl_filterMap]
  congr 1
  funext place component
  rw [enters]
  cases step? component <;> rfl

/-- The walk of a path ends where its route does. -/
theorem placeFrom_eq_walk (start : Place) (path : String) :
    placeFrom start path = (Route.ofPath path.toList).walk start := by
  have absolute : isAbsolute path = (Route.ofPath path.toList).absolute := by
    rw [Bool.eq_iff_iff, isAbsolute_iff]
    simp [Route.ofPath]
  rw [Route.walk, ← absolute]
  exact walkOn_eq_foldl _ path

/-- Steps that can be written are read back from their names with separators between them. -/
theorem filterMap_fields_join {steps : List Step} (writable : ∀ s ∈ steps, s.IsWritable) :
    (Text.fields (· == '/') (Text.join ['/'] (steps.map Step.name))).filterMap step? = steps := by
  by_cases empty : steps = []
  · rw [empty]
    rfl
  · have whole : ∀ piece ∈ steps.map Step.name, '/' ∉ piece := by
      intro piece listed
      obtain ⟨s, isStep, rfl⟩ := List.mem_map.1 listed
      exact (writable s isStep).notMem_name
    rw [Text.fields_join (by simpa using empty) whole, List.filterMap_map]
    have reads : ∀ s ∈ steps, (step? ∘ Step.name) s = some s := by
      intro s isStep
      have here := writable s isStep
      exact (step?_eq_some_iff here.notMem_name).2 ⟨rfl, here⟩
    rw [List.filterMap_congr reads, List.filterMap_some]

/-- The writing of steps starts with the first name, so with no separator. -/
theorem head?_join_ne {steps : List Step} (writable : ∀ s ∈ steps, s.IsWritable) :
    (Text.join ['/'] (steps.map Step.name)).head? ≠ some '/' := by
  cases steps with
  | nil => simp [Text.join]
  | cons s others =>
    have first := writable s List.mem_cons_self
    have starts : ∃ rest, Text.join ['/'] ((s :: others).map Step.name) = s.name ++ rest := by
      by_cases last : others = []
      · exact ⟨[], by simp [last, Text.join]⟩
      · rw [List.map_cons, Text.join_cons (by simpa using last), List.append_assoc]
        exact ⟨_, rfl⟩
    obtain ⟨rest, starts⟩ := starts
    rw [starts]
    cases name : s.name with
    | nil => exact absurd name first.name_ne_nil
    | cons c r =>
      have notSeparator : c ≠ '/' := by
        rintro rfl
        exact first.notMem_name (by simp [name])
      simpa using notSeparator

/-- A route is read back from its writing. -/
theorem ofPath_toPath {r : Route} (writable : r.IsWritable) : Route.ofPath r.toPath = r := by
  obtain ⟨absolute, steps⟩ := r
  have readBack := filterMap_fields_join writable
  have head := head?_join_ne writable
  unfold Route.toPath
  cases absolute with
  | true =>
    simpa [Route.ofPath, Text.fields, step?] using readBack
  | false =>
    by_cases empty : steps = []
    · rw [empty]
      rfl
    · simpa [Route.ofPath, empty, readBack] using head

/-! ## The name at the end -/

/-- A path ends with a name if the components after it stay where they are. -/
def EndsWith (path name : String) : Prop :=
  ∃ before after, path.toList.splitOn '/' = before ++ name.toList :: after ∧ IsName name.toList ∧
    ∀ component ∈ after, component = [] ∨ component = ['.']

theorem step?_eq_none_iff (piece : Name) : step? piece = none ↔ piece = [] ∨ piece = ['.'] := by
  unfold step?
  split
  next stays => simp [stays]
  next moves =>
    split
    · simp [moves]
    · simp [moves]

/-- The last name of a path is the name that it ends with. -/
theorem lastName?_eq_some_iff {path name : String} :
    lastName? path = some name ↔ EndsWith path name := by
  have last : (Route.ofPath path.toList).steps.getLast? =
      (path.toList.splitOn '/').reverse.findSome? step? := by
    rw [Route.ofPath, List.getLast?_filterMap, Text.fields_eq_splitOnP]
    rfl
  have told : lastName? path = some name ↔
      (path.toList.splitOn '/').reverse.findSome? step? = some (.down name.toList) := by
    rw [lastName?, last]
    cases (path.toList.splitOn '/').reverse.findSome? step? with
    | none => simp
    | some s =>
      cases s with
      | up => simp
      | down n => simp [← String.toList_inj]
  have whole : ∀ piece ∈ path.toList.splitOn '/', '/' ∉ piece := by
    intro piece listed separator
    change piece ∈ path.toList.splitOnP (· == '/') at listed
    rw [← Text.fields_eq_splitOnP] at listed
    exact absurd (Text.not_of_mem_fields listed '/' separator) (by decide)
  rw [told, List.findSome?_eq_some_iff]
  constructor
  · rintro ⟨after, piece, before, parts, reads, stay⟩
    have parts := List.reverse_eq_iff.1 parts
    rw [List.reverse_append, List.reverse_cons, List.append_assoc, List.singleton_append] at parts
    have isPiece : piece ∈ path.toList.splitOn '/' := by simp [parts]
    obtain ⟨rfl, isName⟩ := (step?_eq_some_iff (whole piece isPiece)).1 reads
    refine ⟨before.reverse, after.reverse, parts, isName, fun component listed => ?_⟩
    exact (step?_eq_none_iff component).1 (stay component (List.mem_reverse.1 listed))
  · rintro ⟨before, after, parts, isName, stay⟩
    refine ⟨after.reverse, name.toList, before.reverse, by simp [parts], ?_,
      fun component listed => ?_⟩
    · exact (step?_eq_some_iff isName.whole).2 ⟨rfl, isName⟩
    · exact (step?_eq_none_iff component).2 (stay component (List.mem_reverse.1 listed))

/-! ## The text at the end -/

/-- The text behind the last separator of a path, or the whole path if it has none. -/
def StandsLast (path name : String) : Prop :=
  '/' ∉ name.toList ∧ (path = name ∨ ∃ front, path = front ++ "/" ++ name)

theorem afterSlash_of_standsLast {path name : String} (last : StandsLast path name) :
    afterSlash path = name := by
  obtain ⟨whole, place⟩ := last
  have only : Text.fields (· == '/') name.toList = [name.toList] :=
    Text.fields_of_forall_not fun c listed => by
      simpa using fun same : c = '/' => whole (same ▸ listed)
  rcases place with rfl | ⟨front, rfl⟩
  · simp [afterSlash, Text.splitAt, only]
  · have written : (front ++ "/" ++ name).toList = front.toList ++ '/' :: name.toList := by simp
    rw [afterSlash, Text.splitAt, written, Text.fields_append_cons (by rfl), only]
    simp

theorem afterSlash_eq_iff {path name : String} :
    afterSlash path = name ↔ StandsLast path name := by
  refine ⟨?_, afterSlash_of_standsLast⟩
  rintro rfl
  by_cases separated : '/' ∈ path.toList.reverse
  · obtain ⟨name, front, reversed, whole⟩ := List.eq_append_cons_of_mem separated
    have last : StandsLast path (String.ofList name.reverse) := by
      refine ⟨by simpa using whole, Or.inr ⟨String.ofList front.reverse, ?_⟩⟩
      rw [← String.toList_inj, List.reverse_eq_iff.1 reversed]
      simp
    rwa [afterSlash_of_standsLast last]
  · have last : StandsLast path path := ⟨by simpa using separated, Or.inl rfl⟩
    rwa [afterSlash_of_standsLast last]

end HostStorage.Path
