import HostStorage.Nvme.Controller
import HostStorage.Proofs.Host.Walk

/-!
# What is told about the controller of a namespace

The entry of a namespace is missing, it cannot be looked at or followed, or it leads to a place
(`HostTree.absent_or_unreadable_or_leads`). Only a missing entry is told as a namespace that does
not exist, and whatever cannot be read is told as unreadable. The names of a place tell the rest:
whether the namespace is on a fabric, and then the controller in front of it
(`nvmeController_tells_what_is_there`).
-/
namespace HostStorage

open HostStorage.Path (Name Place)

/-! ## The name in front -/

/-- A name stands directly before the last occurrence of another one. -/
def StandsBefore (names : List Name) (name last : Name) : Prop :=
  ∃ before after, names = before ++ name :: last :: after ∧ last ∉ after

variable {name last first second : Name} {names : List Name}

theorem StandsBefore.cons (stands : StandsBefore names name last) (first : Name) :
    StandsBefore (first :: names) name last := by
  obtain ⟨before, after, rfl, final⟩ := stands
  exact ⟨first :: before, after, rfl, final⟩

theorem standsBefore_cons_cons_iff :
    StandsBefore (first :: second :: names) name last ↔
      StandsBefore (second :: names) name last ∨ name = first ∧ last = second ∧ last ∉ names := by
  constructor
  · rintro ⟨before, after, whole, final⟩
    cases before with
    | nil =>
      cases whole
      exact Or.inr ⟨rfl, rfl, final⟩
    | cons head before =>
      rw [List.cons_append, List.cons.injEq] at whole
      exact Or.inl ⟨before, after, whole.2, final⟩
  · rintro (stands | ⟨rfl, rfl, final⟩)
    · exact stands.cons first
    · exact ⟨[], names, rfl, final⟩

/-- Some name stands before a name that occurs behind the first place. -/
theorem exists_standsBefore_iff (first : Name) (names : List Name) (last : Name) :
    (∃ name, StandsBefore (first :: names) name last) ↔ last ∈ names := by
  constructor
  · rintro ⟨name, before, after, whole, -⟩
    have listed : last ∈ (first :: names).tail := by
      rw [whole]
      cases before <;> simp
    exact listed
  · intro listed
    induction names generalizing first with
    | nil => cases listed
    | cons second names ih =>
      by_cases later : last ∈ names
      · obtain ⟨name, stands⟩ := ih second later
        exact ⟨name, stands.cons first⟩
      · have here : last = second := (List.mem_cons.1 listed).resolve_right later
        exact ⟨first, standsBefore_cons_cons_iff.2 (Or.inr ⟨rfl, here, later⟩)⟩

theorem nameBefore?_eq_some_iff :
    nameBefore? last names = some name ↔ StandsBefore names name last := by
  fun_induction nameBefore? last names generalizing name with
  | case1 =>
    have notBefore : ¬ StandsBefore [] name last := by
      rintro ⟨before, after, whole, -⟩
      simp at whole
    simpa using notBefore
  | case2 only =>
    have notBefore : ¬ StandsBefore [only] name last := fun stands =>
      List.not_mem_nil ((exists_standsBefore_iff only [] last).1 ⟨name, stands⟩)
    simpa using notBefore
  | case3 first second names found later ih =>
    -- The name occurs again further on, so this is not its last occurrence.
    have again : last ∈ names := (exists_standsBefore_iff second names last).1 ⟨found, ih.1 later⟩
    rw [standsBefore_cons_cons_iff, ← ih, later]
    simp [again]
  | case4 first names later ih =>
    have final : last ∉ names := fun again => by
      obtain ⟨found, stands⟩ := (exists_standsBefore_iff last names last).2 again
      rw [ih.2 stands] at later
      cases later
    rw [standsBefore_cons_cons_iff, ← ih, later]
    simp [final, eq_comm]
  | case5 first second names later other ih =>
    rw [standsBefore_cons_cons_iff, ← ih, later]
    simp [Ne.symm other]

example : nameBefore? "n".toList
    ["ctl".toList, "nvme1".toList, "n".toList, "x".toList, "n".toList] = some "x".toList := by
  decide

/-! ## The controller that a place tells -/

/-- The controller of a namespace on a fabric: the name in front of the namespace, if it is the
name of a controller. -/
structure IsControllerOf (place : Place) (device controller : String) : Prop where
  onFabric : "ctl".toList ∈ place
  inFront : StandsBefore place controller.toList device.toList
  named : "nvme".toList <+: controller.toList

theorem IsControllerOf.notEmpty {place : Place} {device controller : String}
    (isController : IsControllerOf place device controller) : controller ≠ "" := by
  rintro rfl
  have empty := List.prefix_nil.1 isController.named
  cases empty

theorem controllerOf_of_notMem {place : Place} (device : String)
    (notOnFabric : "ctl".toList ∉ place) : controllerOf device place = .ok "" := by
  rw [controllerOf, if_neg (mt List.contains_iff_mem.1 notOnFabric)]

theorem controllerOf_of_isControllerOf {place : Place} {device controller : String}
    (isController : IsControllerOf place device controller) :
    controllerOf device place = .ok controller := by
  have inFront := nameBefore?_eq_some_iff.2 isController.inFront
  have named := List.isPrefixOf_iff_prefix.2 isController.named
  simp only [controllerOf, List.contains_iff_mem.2 isController.onFabric, if_true, inFront, named,
    String.ofList_toList]

theorem controllerOf_of_forall_not {place : Place} {device : String}
    (onFabric : "ctl".toList ∈ place)
    (nobody : ∀ controller, ¬ IsControllerOf place device controller) :
    controllerOf device place = .error (.controllerNotFound device) := by
  rw [controllerOf, if_pos (List.contains_iff_mem.2 onFabric)]
  split
  next name found =>
    have unnamed : ¬ "nvme".toList.isPrefixOf name = true := by
      intro named
      have same : (String.ofList name).toList = name := String.toList_ofList
      refine nobody (String.ofList name) ⟨onFabric, ?_, ?_⟩
      · rw [same]
        exact nameBefore?_eq_some_iff.1 found
      · rw [same]
        exact List.isPrefixOf_iff_prefix.1 named
    rw [if_neg unnamed]
  next => rfl

/-- What a place tells: nothing of a controller, the controller, or that there is none to find. -/
theorem controllerOf_cases (device : String) (place : Place) :
    "ctl".toList ∉ place ∧ controllerOf device place = .ok "" ∨
      (∃ controller, IsControllerOf place device controller ∧
        controllerOf device place = .ok controller) ∨
      ("ctl".toList ∈ place ∧ ∀ controller, ¬ IsControllerOf place device controller) ∧
        controllerOf device place = .error (.controllerNotFound device) := by
  by_cases onFabric : "ctl".toList ∈ place
  · by_cases somebody : ∃ controller, IsControllerOf place device controller
    · obtain ⟨controller, isController⟩ := somebody
      exact Or.inr (Or.inl ⟨controller, isController, controllerOf_of_isControllerOf isController⟩)
    · have nobody := not_exists.1 somebody
      exact Or.inr (Or.inr ⟨⟨onFabric, nobody⟩, controllerOf_of_forall_not onFabric nobody⟩)
  · exact Or.inl ⟨onFabric, controllerOf_of_notMem device onFabric⟩

theorem controllerOf_eq_empty_iff {place : Place} {device : String} :
    controllerOf device place = .ok "" ↔ "ctl".toList ∉ place := by
  refine ⟨fun told onFabric => ?_, controllerOf_of_notMem device⟩
  rcases controllerOf_cases device place with
    ⟨notOnFabric, -⟩ | ⟨controller, isController, same⟩ | ⟨-, refused⟩
  · exact notOnFabric onFabric
  · rw [same, Except.ok.injEq] at told
    exact isController.notEmpty told
  · rw [refused] at told
    cases told

theorem controllerOf_eq_ok_iff {place : Place} {device controller : String}
    (notEmpty : controller ≠ "") :
    controllerOf device place = .ok controller ↔ IsControllerOf place device controller := by
  refine ⟨fun told => ?_, controllerOf_of_isControllerOf⟩
  rcases controllerOf_cases device place with
    ⟨-, empty⟩ | ⟨other, isController, same⟩ | ⟨-, refused⟩
  · rw [empty, Except.ok.injEq] at told
    exact absurd told.symm notEmpty
  · rw [same, Except.ok.injEq] at told
    exact told ▸ isController
  · rw [refused] at told
    cases told

theorem controllerOf_eq_error_iff {place : Place} {device : String} {e : StorageError} :
    controllerOf device place = .error e ↔ e = .controllerNotFound device ∧
      "ctl".toList ∈ place ∧ ∀ controller, ¬ IsControllerOf place device controller := by
  constructor
  · intro failed
    rcases controllerOf_cases device place with
      ⟨-, empty⟩ | ⟨controller, -, same⟩ | ⟨nobody, refused⟩
    · rw [empty] at failed
      cases failed
    · rw [same] at failed
      cases failed
    · rw [refused, Except.error.injEq] at failed
      exact ⟨failed.symm, nobody⟩
  · rintro ⟨rfl, onFabric, nobody⟩
    exact controllerOf_of_forall_not onFabric nobody

/-! ## What the entry of a namespace leads to -/

namespace HostTree

def IsAbsent (t : HostTree) (path : String) : Prop := t.status false path = .error (.os .noEntry)

/-- It cannot be told whether something stands at a path, or where that leads. -/
def IsUnreadable (t : HostTree) (path : String) (f : IoFailure) : Prop :=
  (t.status false path = .error f ∧ f ≠ .os .noEntry) ∨
    ((∃ n, t.status false path = .ok n) ∧ t.canonicalPlace path = .error f)

/-- What stands at a path leads to a place through all links. -/
def LeadsTo (t : HostTree) (path : String) (place : Place) : Prop :=
  (∃ n, t.status false path = .ok n) ∧ t.canonicalPlace path = .ok place

theorem absent_or_unreadable_or_leads (t : HostTree) (path : String) :
    t.IsAbsent path ∨ (∃ f, t.IsUnreadable path f) ∨ ∃ place, t.LeadsTo path place := by
  cases stands : t.status false path with
  | error f =>
    by_cases missing : f = .os .noEntry
    · subst missing
      exact Or.inl stands
    · exact Or.inr (Or.inl ⟨f, Or.inl ⟨stands, missing⟩⟩)
  | ok n =>
    cases leads : t.canonicalPlace path with
    | error f => exact Or.inr (Or.inl ⟨f, Or.inr ⟨⟨n, stands⟩, leads⟩⟩)
    | ok place => exact Or.inr (Or.inr ⟨place, ⟨n, stands⟩, leads⟩)

end HostTree

variable {paths : SysPaths} {t : HostTree} {device : String}

theorem nvmeController_of_absent (absent : t.IsAbsent (Path.below paths.sysBlock device)) :
    nvmeController paths t device = .error (.deviceDoesNotExist device) := by
  unfold HostTree.IsAbsent at absent
  simp only [nvmeController, absent]
  rfl

theorem nvmeController_of_unreadable {f : IoFailure}
    (unreadable : t.IsUnreadable (Path.below paths.sysBlock device) f) :
    nvmeController paths t device =
      .error (.unreadable (Path.below paths.sysBlock device) f) := by
  rcases unreadable with ⟨unseen, present⟩ | ⟨⟨n, stands⟩, lost⟩
  · have notMissing : f.isMissing = false := beq_eq_false_iff_ne.2 present
    simp [nvmeController, unseen, notMissing]
  · simp only [nvmeController, stands, lost]
    rfl

theorem nvmeController_of_leads {place : Place}
    (leads : t.LeadsTo (Path.below paths.sysBlock device) place) :
    nvmeController paths t device = controllerOf device place := by
  obtain ⟨⟨n, stands⟩, followed⟩ := leads
  simp only [nvmeController, stands, followed]
  rfl

theorem nvmeController_eq_deviceDoesNotExist_iff :
    nvmeController paths t device = .error (.deviceDoesNotExist device) ↔
      t.IsAbsent (Path.below paths.sysBlock device) := by
  refine ⟨fun told => ?_, nvmeController_of_absent⟩
  rcases t.absent_or_unreadable_or_leads (Path.below paths.sysBlock device) with
    absent | ⟨f, unreadable⟩ | ⟨place, leads⟩
  · exact absent
  · rw [nvmeController_of_unreadable unreadable] at told
    cases told
  · rw [nvmeController_of_leads leads, controllerOf_eq_error_iff] at told
    cases told.1

theorem nvmeController_eq_unreadable_iff {f : IoFailure} :
    nvmeController paths t device = .error (.unreadable (Path.below paths.sysBlock device) f) ↔
      t.IsUnreadable (Path.below paths.sysBlock device) f := by
  refine ⟨fun told => ?_, nvmeController_of_unreadable⟩
  rcases t.absent_or_unreadable_or_leads (Path.below paths.sysBlock device) with
    absent | ⟨other, unreadable⟩ | ⟨place, leads⟩
  · rw [nvmeController_of_absent absent] at told
    cases told
  · rw [nvmeController_of_unreadable unreadable] at told
    cases told
    exact unreadable
  · rw [nvmeController_of_leads leads, controllerOf_eq_error_iff] at told
    cases told.1

/-- The error is no absence exactly if the entry cannot be read. -/
theorem nvmeController_isNotFound_eq_false_iff {e : StorageError}
    (failed : nvmeController paths t device = .error e) :
    e.isNotFound = false ↔ ∃ f, t.IsUnreadable (Path.below paths.sysBlock device) f := by
  constructor
  · intro noAbsence
    rcases t.absent_or_unreadable_or_leads (Path.below paths.sysBlock device) with
      absent | unreadable | ⟨place, leads⟩
    · rw [nvmeController_of_absent absent] at failed
      cases failed
      cases noAbsence
    · exact unreadable
    · rw [nvmeController_of_leads leads, controllerOf_eq_error_iff] at failed
      cases failed.1
      cases noAbsence
  · rintro ⟨f, unreadable⟩
    rw [nvmeController_of_unreadable unreadable] at failed
    cases failed
    rfl

/-- In a directory of block devices an entry is absent exactly if nothing has its name, so a link
that leads nowhere or in a circle is not. -/
theorem absent_below_iff {place : Place} (isAt : t.IsDirectoryAt paths.sysBlock place)
    (entry : HostTree.IsEntryName device)
    (isPath : HostTree.IsPath (Path.below paths.sysBlock device)) :
    t.IsAbsent (Path.below paths.sysBlock device) ↔ t.node? (place ++ [device.toList]) = none := by
  rw [HostTree.IsAbsent, isAt.status_below entry isPath, HostTree.found]
  cases t.node? (place ++ [device.toList]) <;> simp

/-- A namespace does not exist exactly if its entry is missing, and its entry is unreadable exactly
if it cannot be looked at or followed, which is no absence. Otherwise the entry leads to a place
whose names tell the rest: no controller exactly if the place is not on a fabric, the controller
exactly if it stands in front of the namespace, and that there is none to find exactly if the place
is on a fabric and no controller stands there. -/
theorem nvmeController_tells_what_is_there (paths : SysPaths) (t : HostTree) (device : String) :
    let link := Path.below paths.sysBlock device
    let told := nvmeController paths t device
    (told = .error (.deviceDoesNotExist device) ↔ t.IsAbsent link) ∧
      (∀ f, told = .error (.unreadable link f) ↔ t.IsUnreadable link f) ∧
      (∀ e, told = .error e → (e.isNotFound = false ↔ ∃ f, t.IsUnreadable link f)) ∧
      (¬ t.IsAbsent link → (∀ f, ¬ t.IsUnreadable link f) → ∃ place, t.LeadsTo link place) ∧
      (∀ place, t.LeadsTo link place →
        (told = .ok "" ↔ "ctl".toList ∉ place) ∧
          (∀ controller, controller ≠ "" →
            (told = .ok controller ↔ IsControllerOf place device controller)) ∧
          (told = .error (.controllerNotFound device) ↔
            "ctl".toList ∈ place ∧ ∀ controller, ¬ IsControllerOf place device controller)) ∧
      ∀ place, t.IsDirectoryAt paths.sysBlock place → HostTree.IsEntryName device →
        HostTree.IsPath link →
          (told = .error (.deviceDoesNotExist device) ↔
            t.node? (place ++ [device.toList]) = none) := by
  intro link told
  refine ⟨nvmeController_eq_deviceDoesNotExist_iff, fun f => nvmeController_eq_unreadable_iff,
    fun e => nvmeController_isNotFound_eq_false_iff, ?leads, ?place, ?listed⟩
  case leads =>
    intro present readable
    rcases t.absent_or_unreadable_or_leads link with absent | ⟨f, unreadable⟩ | leads
    · exact absurd absent present
    · exact absurd unreadable (readable f)
    · exact leads
  case place =>
    intro place leads
    have same : told = controllerOf device place := nvmeController_of_leads leads
    rw [same]
    refine ⟨controllerOf_eq_empty_iff, fun controller => controllerOf_eq_ok_iff, ?_⟩
    simp [controllerOf_eq_error_iff]
  case listed =>
    intro place isAt entry isPath
    exact nvmeController_eq_deviceDoesNotExist_iff.trans (absent_below_iff isAt entry isPath)

end HostStorage
