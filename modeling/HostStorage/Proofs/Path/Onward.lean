import HostStorage.Host.Tree
import HostStorage.Proofs.Path.Cleaning

/-!
# Going on from a place

A path that is put behind another one is walked on from where that one ends (`placeFrom_join`),
whether it starts with a separator or not. Wherever it starts, it first goes up some levels
(`climb`) and then down to where it leads from the root (`walkOn_eq`); most paths do not go up at
all.
-/
namespace HostStorage.Path

open HostTree (pathOf)

theorem placeFrom_nil (path : String) : placeFrom [] path = walkOn [] path := by
  rw [placeFrom, ite_self, walkOn]

/-- An absolute path leads to the same place from everywhere. -/
theorem placeFrom_of_isAbsolute {path : String} (absolute : isAbsolute path = true)
    (start : Place) : placeFrom start path = placeFrom [] path := by
  rw [placeFrom, placeFrom, if_pos absolute, if_pos absolute]

theorem isAbsolute_append {base : String} (absolute : isAbsolute base = true) (rest : String) :
    isAbsolute (base ++ rest) = true := by
  rw [isAbsolute_iff] at absolute ⊢
  rw [String.toList_append, List.head?_append, absolute]
  rfl

/-- From the root, a path behind another one goes on from where that one ends. -/
theorem placeFrom_join (base path : String) :
    placeFrom [] (base ++ "/" ++ path) = walkOn (placeFrom [] base) path := by
  have components : (base ++ "/" ++ path).toList.splitOn '/' =
      base.toList.splitOn '/' ++ path.toList.splitOn '/' := by
    have written : (base ++ "/" ++ path).toList = base.toList ++ '/' :: path.toList := by simp
    rw [written]
    exact List.splitOnP_append_cons _ _ (by rfl)
  rw [placeFrom_nil, placeFrom_nil, walkOn, components, List.foldl_append]
  rfl

/-- Absolute paths are cleaned to the same path exactly if they lead to the same place. -/
theorem cleaned_eq_cleaned_iff {p q : String} (absolute : isAbsolute p = true)
    (absolute' : isAbsolute q = true) :
    cleaned p = cleaned q ↔ placeFrom [] p = placeFrom [] q := by
  constructor
  · intro same
    rw [← placeFrom_cleaned, same, placeFrom_cleaned]
  · intro same
    apply cleaned_eq_of_chain
    intro depth
    rw [placeFrom_of_isAbsolute absolute, placeFrom_of_isAbsolute absolute', same]

/-! ## Names -/

/-- A walk ends at names of its start and names that can be descended to. -/
theorem mem_walkOn {start : Place} {path : String} {name : Name}
    (listed : name ∈ walkOn start path) : name ∈ start ∨ IsName name := by
  rw [walkOn_eq_foldl] at listed
  have writable := isWritable_ofPath path.toList
  unfold Route.IsWritable at writable
  generalize (Route.ofPath path.toList).steps = steps at listed writable
  induction steps generalizing start with
  | nil => exact Or.inl listed
  | cons s rest ih =>
    obtain ⟨first, later⟩ := List.forall_mem_cons.1 writable
    rcases ih listed later with here | isName
    · cases s with
      | up => exact Or.inl (List.dropLast_subset start here)
      | down other =>
        rcases List.mem_append.1 here with before | last
        · exact Or.inl before
        · rw [List.mem_singleton.1 last]
          exact Or.inr first
    · exact Or.inr isName

/-- The path of a place goes down its names, behind whatever path it is put. -/
theorem placeFrom_append_pathOf (base : String) {below : Place}
    (names : ∀ name ∈ below, IsName name) :
    placeFrom [] (base ++ pathOf below) = placeFrom [] base ++ below := by
  have separated : base ++ pathOf below =
      base ++ "/" ++ String.ofList (Text.join ['/'] below) := by
    rw [← String.toList_inj]
    simp [pathOf]
  have steps : (Route.ofPath (Text.join ['/'] below)).steps = below.map .down := by
    have written : (below.map Step.down).map Step.name = below := by
      rw [List.map_map]
      exact List.map_id'' (fun _ => rfl) below
    have writable : ∀ s ∈ below.map Step.down, s.IsWritable := by
      intro s listed
      obtain ⟨name, here, rfl⟩ := List.mem_map.1 listed
      exact names name here
    have readBack := filterMap_fields_join writable
    rwa [written] at readBack
  rw [separated, placeFrom_join, walkOn_eq_foldl, String.toList_ofList, steps, foldl_from_down]

/-! ## Up and then down -/

/-- The number of levels that a path goes up in front of the names that it goes down. -/
def climb (path : String) : Nat :=
  (Route.reduced ⟨false, (Route.ofPath path.toList).steps⟩).steps.count .up

/-- From wherever it starts, a path goes up its climb, as far as there are levels, and then down to
where it leads from the root. -/
theorem walkOn_eq (start : Place) (path : String) :
    walkOn start path = start.take (start.length - climb path) ++ placeFrom [] path := by
  obtain ⟨up, names, steps, -⟩ :=
    isReduced_reduced ⟨false, (Route.ofPath path.toList).steps⟩
  have climbs : climb path = up := by
    rw [climb, steps, List.count_append, List.count_replicate_self, Nat.add_eq_left,
      List.count_eq_zero]
    simp
  have walks : ∀ start, walkOn start path = start.take (start.length - up) ++ names := by
    intro start
    have walk := walk_of_steps steps start
    rw [walk_reduced] at walk
    rwa [walkOn_eq_foldl]
  have atRoot : placeFrom [] path = names := by
    rw [placeFrom_nil, walks]
    simp
  rw [climbs, walks, atRoot]

end HostStorage.Path
