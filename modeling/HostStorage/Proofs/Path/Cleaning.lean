import HostStorage.Proofs.Path.Walk

/-!
# Cleaned paths

A reduced route goes up first and then only down, and not up at all if it starts at the root. Every
route has a reduced one with the same walk, and two reduced routes with the same walks are the same:
a chain of directories that is deep enough tells them apart. So the cleaned path is the one path
that is chosen among all that lead to the same places (`cleaned_eq_iff_same_places`).
-/
namespace HostStorage.Path

/-- The steps of a reduced route, last step first. -/
def IsReducedStack (absolute : Bool) (done : List Step) : Prop :=
  ∃ (climb : Nat) (names : List Name),
    done = names.map .down ++ List.replicate climb .up ∧ (absolute = true → climb = 0)

/-- A route that climbs first and then descends; one from the root does not climb. -/
def Route.IsReduced (r : Route) : Prop :=
  ∃ (climb : Nat) (names : List Name),
    r.steps = List.replicate climb .up ++ names.map .down ∧ (r.absolute = true → climb = 0)

variable {absolute : Bool} {done : List Step}

/-- Pushing a step keeps a stack reduced. -/
theorem IsReducedStack.push (reduced : IsReducedStack absolute done) (s : Step) :
    IsReducedStack absolute (push absolute done s) := by
  obtain ⟨climb, names, rfl, noClimb⟩ := reduced
  cases s with
  | down name => exact ⟨climb, name :: names, rfl, noClimb⟩
  | up =>
    cases names with
    | cons last before => exact ⟨climb, before, rfl, noClimb⟩
    | nil =>
      cases climb with
      | zero =>
        cases absolute with
        | true => exact ⟨0, [], rfl, noClimb⟩
        | false => exact ⟨1, [], rfl, nofun⟩
      | succ climb =>
        have relative : absolute = false := by
          cases absolute with
          | true => exact absurd (noClimb rfl) (Nat.succ_ne_zero climb)
          | false => rfl
        exact ⟨climb + 2, [], rfl, by simp [relative]⟩

/-- A reduced route stays reduced whatever steps are added to it. -/
theorem IsReducedStack.foldl (reduced : IsReducedStack absolute done) (steps : List Step) :
    IsReducedStack absolute (steps.foldl (Path.push absolute) done) := by
  induction steps generalizing done with
  | nil => exact reduced
  | cons s rest ih => exact ih (reduced.push s)

theorem isReduced_reduced (r : Route) : r.reduced.IsReduced := by
  have start : IsReducedStack r.absolute [] := ⟨0, [], rfl, fun _ => rfl⟩
  obtain ⟨climb, names, stack, noClimb⟩ := start.foldl r.steps
  refine ⟨climb, names.reverse, ?_, noClimb⟩
  simp [Route.reduced, stack]

/-- Climbing from a stack of climbs adds to it. -/
theorem foldl_push_replicate (climbed climb : Nat) :
    (List.replicate climb Step.up).foldl (push false) (List.replicate climbed .up) =
      List.replicate (climbed + climb) .up := by
  induction climb generalizing climbed with
  | zero => rfl
  | succ climb ih =>
    have step : push false (List.replicate climbed .up) .up = List.replicate (climbed + 1) .up := by
      cases climbed <;> rfl
    rw [List.replicate_succ, List.foldl_cons, step, ih, Nat.add_assoc, Nat.add_comm 1 climb]

theorem foldl_push_down (absolute : Bool) (done : List Step) (names : List Name) :
    (names.map Step.down).foldl (push absolute) done = (names.map .down).reverse ++ done := by
  induction names generalizing done with
  | nil => rfl
  | cons name rest ih =>
    rw [List.map_cons, List.foldl_cons, push, ih]
    simp

/-- Reducing leaves a reduced route as it is. -/
theorem reduced_of_isReduced {r : Route} (reduced : r.IsReduced) : r.reduced = r := by
  obtain ⟨absolute, steps⟩ := r
  obtain ⟨climb, names, rfl, noClimb⟩ := reduced
  have climbs : (List.replicate climb Step.up).foldl (push absolute) [] =
      List.replicate climb .up := by
    cases absolute with
    | true =>
      rw [noClimb rfl]
      rfl
    | false => simpa using foldl_push_replicate 0 climb
  simp [Route.reduced, climbs, foldl_push_down]

/-- Pushing a step onto the stack takes the step at the end of the walk so far. -/
theorem walk_push {start : Place} (root : absolute = true → start = []) (done : List Step)
    (s : Step) :
    (push absolute done s).reverse.foldl Step.from start =
      s.from (done.reverse.foldl Step.from start) := by
  cases s with
  | down name => simp [push]
  | up =>
    match done with
    | .down name :: before => simp [push, Step.from]
    | .up :: before => simp [push]
    | [] =>
      cases absolute with
      | true => simp [push, Step.from, root rfl]
      | false => simp [push, Step.from]

/-- A detour leads back to where it started. -/
theorem walk_reduced (r : Route) (start : Place) : r.reduced.walk start = r.walk start := by
  unfold Route.walk
  change (r.steps.foldl (push r.absolute) []).reverse.foldl Step.from
    (if r.absolute then [] else start) = _
  generalize origin : (if r.absolute then [] else start) = place
  have root : r.absolute = true → place = [] := by
    intro absolute
    rw [← origin, if_pos absolute]
  have walks : ∀ (steps done : List Step),
      (steps.foldl (push r.absolute) done).reverse.foldl Step.from place =
        steps.foldl Step.from (done.reverse.foldl Step.from place) := by
    intro steps
    induction steps with
    | nil => intro done; rfl
    | cons s rest ih =>
      intro done
      rw [List.foldl_cons, ih, walk_push root, List.foldl_cons]
  exact walks r.steps []

/-- A name that a reduced route goes down to is one that the route goes down to. -/
theorem mem_foldl_push {name : Name} {steps done : List Step}
    (listed : .down name ∈ steps.foldl (push absolute) done) :
    .down name ∈ steps ∨ .down name ∈ done := by
  induction steps generalizing done with
  | nil => exact Or.inr listed
  | cons s rest ih =>
    rcases ih listed with later | pushed
    · exact Or.inl (List.mem_cons_of_mem s later)
    · cases s with
      | down other =>
        rcases List.mem_cons.1 pushed with same | earlier
        · left
          rw [same]
          exact List.mem_cons_self
        · exact Or.inr earlier
      | up =>
        right
        match done with
        | .down last :: before => exact List.mem_cons_of_mem _ pushed
        | .up :: before => simpa [push] using pushed
        | [] => cases absolute <;> simp [push] at pushed

theorem isWritable_reduced {r : Route} (writable : r.IsWritable) : r.reduced.IsWritable := by
  intro s listed
  cases s with
  | up => trivial
  | down name =>
    have pushed : Step.down name ∈ r.steps.foldl (push r.absolute) [] := by
      simpa [Route.reduced] using listed
    rcases mem_foldl_push pushed with here | nowhere
    · exact writable (.down name) here
    · exact absurd nowhere List.not_mem_nil

/-- The route of a cleaned path is the reduced one. -/
theorem ofPath_cleaned (path : String) :
    Route.ofPath (cleaned path).toList = (Route.ofPath path.toList).reduced := by
  rw [cleaned, String.toList_ofList, clean]
  exact ofPath_toPath (isWritable_reduced (isWritable_ofPath path.toList))

/-- Cleaned paths are told apart by their routes. -/
theorem cleaned_eq_iff {p q : String} :
    cleaned p = cleaned q ↔
      (Route.ofPath p.toList).reduced = (Route.ofPath q.toList).reduced := by
  constructor
  · intro same
    rw [← ofPath_cleaned, ← ofPath_cleaned, same]
  · intro same
    rw [cleaned, cleaned, clean, clean, same]

/-- A chain of directories of one name. -/
def chain (depth : Nat) : Place := List.replicate depth ['a']

theorem isName_of_mem_chain {depth : Nat} {name : Name} (listed : name ∈ chain depth) :
    IsName name := by
  rw [List.eq_of_mem_replicate listed]
  exact ⟨by decide, by decide, by decide, by decide⟩

@[simp] theorem length_chain (depth : Nat) : (chain depth).length = depth :=
  List.length_replicate

theorem foldl_from_down (place : Place) (names : List Name) :
    (names.map Step.down).foldl Step.from place = place ++ names := by
  induction names generalizing place with
  | nil => simp
  | cons name rest ih =>
    rw [List.map_cons, List.foldl_cons, ih, Step.from]
    simp

/-- Where a reduced route ends: it leaves out the end of its start and then descends. -/
theorem walk_of_steps {r : Route} {climb : Nat} {names : List Name}
    (steps : r.steps = List.replicate climb .up ++ names.map .down) (start : Place) :
    r.walk start = (if r.absolute then [] else start).take
      ((if r.absolute then [] else start).length - climb) ++ names := by
  have climbs : ∀ (n : Nat) (place : Place),
      (List.replicate n Step.up).foldl Step.from place = place.take (place.length - n) := by
    intro n
    induction n with
    | zero => intro place; simp
    | succ n ih =>
      intro place
      rw [List.replicate_succ, List.foldl_cons, ih, Step.from, List.length_dropLast,
        List.dropLast_eq_take, List.take_take]
      congr 1
      omega
  rw [Route.walk, steps, List.foldl_append, foldl_from_down, climbs]

/-- Reduced routes with the same walks from every chain of directories are the same: the walk from
the root tells the names they descend to, and deeper walks tell how far they climb. -/
theorem eq_of_walk_chain {r r' : Route} (reduced : r.IsReduced) (reduced' : r'.IsReduced)
    (same : ∀ depth, r.walk (chain depth) = r'.walk (chain depth)) : r = r' := by
  obtain ⟨climb, names, steps, noClimb⟩ := reduced
  obtain ⟨climb', names', steps', noClimb'⟩ := reduced'
  have ends : ∀ depth, ∃ kept kept' : Place, kept ++ names = kept' ++ names' ∧
      kept.length = (if r.absolute then 0 else depth) - climb ∧
      kept'.length = (if r'.absolute then 0 else depth) - climb' := by
    intro depth
    have walk := walk_of_steps steps (chain depth)
    have walk' := walk_of_steps steps' (chain depth)
    refine ⟨_, _, by rw [← walk, ← walk', same depth], ?_, ?_⟩
    · cases r.absolute <;> simp
    · cases r'.absolute <;> simp
  have sameNames : names = names' := by
    obtain ⟨kept, kept', whole, length, length'⟩ := ends 0
    have nothing : kept = [] := List.eq_nil_of_length_eq_zero (by split at length <;> omega)
    have nothing' : kept' = [] := List.eq_nil_of_length_eq_zero (by split at length' <;> omega)
    simpa [nothing, nothing'] using whole
  have sameLengths : ∀ depth, (if r.absolute then 0 else depth) - climb =
      (if r'.absolute then 0 else depth) - climb' := by
    intro depth
    obtain ⟨kept, kept', whole, length, length'⟩ := ends depth
    have total := congrArg List.length whole
    rw [List.length_append, List.length_append, sameNames] at total
    omega
  -- a chain deeper than both climbs leaves no room for a difference
  have deep := sameLengths (climb + climb' + 1)
  have sameStart : r.absolute = r'.absolute ∧ climb = climb' := by
    cases start : r.absolute <;> cases start' : r'.absolute <;>
      simp only [start, start', Bool.false_eq_true, if_true, if_false, forall_const]
        at noClimb noClimb' deep
    · exact ⟨rfl, by omega⟩
    · omega
    · omega
    · exact ⟨rfl, by omega⟩
  obtain ⟨absolute, _⟩ := r
  obtain ⟨absolute', _⟩ := r'
  simp only at steps steps' sameStart
  rw [steps, steps', sameNames, sameStart.1, sameStart.2]

/-- Paths that lead to the same places from every chain of directories are cleaned to the same
path. -/
theorem cleaned_eq_of_chain {p q : String}
    (same : ∀ depth, placeFrom (chain depth) p = placeFrom (chain depth) q) :
    cleaned p = cleaned q := by
  rw [cleaned_eq_iff]
  apply eq_of_walk_chain (isReduced_reduced _) (isReduced_reduced _)
  intro depth
  rw [walk_reduced, walk_reduced, ← placeFrom_eq_walk, ← placeFrom_eq_walk]
  exact same depth

/-- A cleaned path leads where the path leads. -/
theorem placeFrom_cleaned (start : Place) (path : String) :
    placeFrom start (cleaned path) = placeFrom start path := by
  rw [placeFrom_eq_walk, ofPath_cleaned, walk_reduced, ← placeFrom_eq_walk]

theorem cleaned_cleaned (path : String) : cleaned (cleaned path) = cleaned path :=
  cleaned_eq_of_chain fun depth => placeFrom_cleaned (chain depth) path

structure IsRootSpelling (path : String) : Prop where
  absolute : isAbsolute path = true
  endsAtRoot : ∀ start, placeFrom start path = []

/-- The spellings of the root directory are the paths that are cleaned to `/`. -/
theorem cleaned_eq_root_iff (path : String) : cleaned path = "/" ↔ IsRootSpelling path := by
  have root : cleaned "/" = "/" := by decide
  have atRoot : ∀ start, placeFrom start "/" = [] := by
    intro start
    rfl
  constructor
  · intro isRoot
    have sameRoute : (Route.ofPath path.toList).reduced = (Route.ofPath "/".toList).reduced :=
      cleaned_eq_iff.1 (isRoot.trans root.symm)
    have absolute : (Route.ofPath path.toList).absolute = true := congrArg Route.absolute sameRoute
    refine ⟨?_, fun start => ?_⟩
    · rw [isAbsolute_iff]
      simpa [Route.ofPath] using absolute
    · rw [← placeFrom_cleaned, isRoot, atRoot]
  · rintro ⟨_, endsAtRoot⟩
    rw [← root]
    apply cleaned_eq_of_chain
    intro depth
    rw [endsAtRoot, atRoot]

/-- Cleaning chooses one path among all that lead to the same places: the cleaned path leads where
the path leads, is left as it is when it is cleaned again, and is shared exactly by the paths that
lead to the same places. Starts that are written with names are enough to tell paths apart. -/
theorem cleaned_eq_iff_same_places (p q : String) :
    (∀ start, placeFrom start (cleaned p) = placeFrom start p) ∧
    cleaned (cleaned p) = cleaned p ∧
    (cleaned p = cleaned q ↔ ∀ start, placeFrom start p = placeFrom start q) ∧
    ((∀ start, (∀ name ∈ start, IsName name) → placeFrom start p = placeFrom start q) →
      cleaned p = cleaned q) ∧
    (cleaned p = "/" ↔ isAbsolute p = true ∧ ∀ start, placeFrom start p = []) := by
  refine ⟨fun start => placeFrom_cleaned start p, ?_, ⟨?_, ?_⟩, ?_, ?_⟩
  · rw [cleaned_eq_iff, ofPath_cleaned]
    exact reduced_of_isReduced (isReduced_reduced _)
  · intro same start
    rw [← placeFrom_cleaned, same, placeFrom_cleaned]
  · intro same
    exact cleaned_eq_of_chain fun depth => same (chain depth)
  · intro same
    exact cleaned_eq_of_chain fun depth => same (chain depth) fun _ => isName_of_mem_chain
  · rw [cleaned_eq_root_iff]
    exact ⟨fun spelling => ⟨spelling.absolute, spelling.endsAtRoot⟩, fun both => ⟨both.1, both.2⟩⟩

end HostStorage.Path
