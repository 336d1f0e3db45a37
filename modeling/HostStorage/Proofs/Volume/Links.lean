import HostStorage.Proofs.Host.Walk
import HostStorage.Volume.Links

/-!
# Which link tells the device of a volume

A path is read in one of three ways: a link leads to a device, or it cannot be told what stands
there, or nothing is told. The first path that tells something decides what is found
(`wwnDevice_by_first_telling_link`), so a volume without a device is never confused with one whose
links cannot be read.
-/
namespace HostStorage

/-! ## One path -/

/-- A link whose target ends with the name of a device. -/
def LeadsTo (t : HostTree) (link device : String) : Prop :=
  ∃ target name, t.status false link = .ok (.link target) ∧ Path.EndsWith target name ∧
    device = "/dev/" ++ name

/-- A path of which it cannot be told whether something stands there. -/
structure Obstructed (t : HostTree) (link : String) (f : IoFailure) : Prop where
  isPath : '\x00' ∉ link.toList
  fails : t.status false link = .error f
  notAbsent : f ≠ .os .noEntry

/-- A path that tells of no device: it has a NUL, nothing stands there, what stands there is no
link, or the target of the link ends without a name. -/
inductive TellsNothing (t : HostTree) (link : String) : Prop
  | noPath (nul : '\x00' ∈ link.toList)
  | absent (nothing : t.status false link = .error (.os .noEntry))
  | noLink (n : Node) (stands : t.status false link = .ok n) (other : ∀ target, n ≠ .link target)
  | nameless (target : String) (stands : t.status false link = .ok (.link target))
      (noName : ∀ name, ¬ Path.EndsWith target name)

/-- What is read at a path: a device, nothing, or a failure. -/
def readDevice (t : HostTree) (link : String) : Except IoFailure (Option String) :=
  match t.linkTarget link with
  | .ok target => .ok (linkedDevice? target)
  | .error f => if isAbsentLink f then .ok none else .error f

/-- What is read depends on what stands at the path. -/
theorem readDevice_eq (t : HostTree) (link : String) :
    readDevice t link = match t.status false link with
      | .ok (.link target) => .ok (linkedDevice? target)
      | .ok _ => .ok none
      | .error f => if isAbsentLink f then .ok none else .error f := by
  rw [readDevice, HostTree.linkTarget]
  cases t.status false link with
  | error f => rfl
  | ok n => cases n <;> rfl

theorem linkedDevice?_eq_some_iff {target device : String} :
    linkedDevice? target = some device ↔
      ∃ name, Path.EndsWith target name ∧ device = "/dev/" ++ name := by
  rw [linkedDevice?, Option.map_eq_some_iff]
  refine exists_congr fun name => and_congr Path.lastName?_eq_some_iff eq_comm

theorem linkedDevice?_eq_none_iff {target : String} :
    linkedDevice? target = none ↔ ∀ name, ¬ Path.EndsWith target name := by
  rw [linkedDevice?, Option.map_eq_none_iff, Option.eq_none_iff_forall_ne_some]
  exact forall_congr' fun name => not_congr Path.lastName?_eq_some_iff

variable {t : HostTree} {link device : String} {f : IoFailure}

/-- A failure is taken for the lack of a link if the path has a NUL or nothing stands there. -/
theorem isAbsentLink_iff (fails : t.status false link = .error f) :
    isAbsentLink f = true ↔ '\x00' ∈ link.toList ∨ f = .os .noEntry := by
  by_cases nul : '\x00' ∈ link.toList
  · rw [t.status_of_nul false nul] at fails
    cases fails
    exact iff_of_true rfl (Or.inl nul)
  · obtain ⟨e, listed, rfl⟩ := HostTree.exists_of_status_eq_error nul fails
    have only : ∀ e ∈ HostTree.walkFailures,
        isAbsentLink (.os e) = true ↔ IoFailure.os e = .os .noEntry := by decide
    rw [only e listed, or_iff_right nul]

theorem readDevice_eq_some_iff :
    readDevice t link = .ok (some device) ↔ LeadsTo t link device := by
  rw [readDevice_eq, LeadsTo]
  cases t.status false link with
  | error f => by_cases absent : isAbsentLink f = true <;> simp [absent]
  | ok n =>
    cases n with
    | link target => simp [linkedDevice?_eq_some_iff]
    | _ => simp

theorem readDevice_eq_error_iff : readDevice t link = .error f ↔ Obstructed t link f := by
  rw [readDevice_eq]
  constructor
  · intro failed
    cases stands : t.status false link with
    | error e =>
      simp only [stands] at failed
      split at failed
      next => cases failed
      next present =>
        cases failed
        rw [isAbsentLink_iff stands, not_or] at present
        exact ⟨present.1, stands, present.2⟩
    | ok n =>
      rw [stands] at failed
      cases n <;> cases failed
  · rintro ⟨isPath, fails, notAbsent⟩
    have present : ¬ isAbsentLink f = true := by
      rw [isAbsentLink_iff fails, not_or]
      exact ⟨isPath, notAbsent⟩
    simp only [fails, if_neg present]

theorem readDevice_eq_none_iff : readDevice t link = .ok none ↔ TellsNothing t link := by
  rw [readDevice_eq]
  constructor
  · intro nothing
    cases stands : t.status false link with
    | error f =>
      simp only [stands] at nothing
      split at nothing
      next absent =>
        rcases (isAbsentLink_iff stands).1 absent with nul | rfl
        · exact .noPath nul
        · exact .absent stands
      next => cases nothing
    | ok n =>
      rw [stands] at nothing
      cases n with
      | link target =>
        exact .nameless target stands (linkedDevice?_eq_none_iff.1 (Except.ok.inj nothing))
      | _ => exact .noLink _ stands (by simp)
  · intro nothing
    cases nothing with
    | noPath nul =>
      rw [t.status_of_nul false nul]
      rfl
    | absent nothing =>
      rw [nothing]
      rfl
    | noLink n stands other =>
      rw [stands]
      cases n with
      | link target => exact absurd rfl (other target)
      | _ => rfl
    | nameless target stands noName =>
      simp only [stands, linkedDevice?_eq_none_iff.2 noName]

/-! ## The first path that tells something -/

/-- Whether a path decides what is found. -/
def tells (t : HostTree) (link : String) : Bool :=
  match readDevice t link with
  | .ok none => false
  | _ => true

theorem tells_eq_false_iff : tells t link = false ↔ TellsNothing t link := by
  rw [← readDevice_eq_none_iff, tells]
  cases readDevice t link with
  | error f => simp
  | ok found => cases found <;> simp

theorem firstLinked?_cons (t : HostTree) (link : String) (rest : List String) :
    firstLinked? t (link :: rest) = match readDevice t link with
      | .ok none => firstLinked? t rest
      | .ok (some device) => .ok (some (link, device))
      | .error f => .error (.unreadable link f) := by
  rw [firstLinked?, readDevice]
  cases t.linkTarget link with
  | error f =>
    dsimp only
    split <;> rfl
  | ok target =>
    dsimp only
    cases linkedDevice? target <;> rfl

/-- What is found is read at the first path that tells something. -/
theorem firstLinked?_eq (t : HostTree) (links : List String) :
    firstLinked? t links = match links.find? (tells t) with
      | none => .ok none
      | some link => match readDevice t link with
        | .ok device => .ok (device.map (link, ·))
        | .error f => .error (.unreadable link f) := by
  induction links with
  | nil => rfl
  | cons link rest ih =>
    rw [firstLinked?_cons, ih, List.find?_cons, tells]
    cases read : readDevice t link with
    | error f => simp only [read]
    | ok found => cases found <;> simp [read]

/-- A path that stands behind nothing but paths that tell of no device. -/
def ComesFirst (t : HostTree) (links : List String) (link : String) : Prop :=
  ∃ before after, links = before ++ link :: after ∧ ∀ earlier ∈ before, TellsNothing t earlier

theorem find?_tells_eq_some_iff {links : List String} :
    links.find? (tells t) = some link ↔ tells t link = true ∧ ComesFirst t links link := by
  simp only [List.find?_eq_some_iff_append, Bool.not_eq_true', tells_eq_false_iff, ComesFirst]

theorem find?_tells_eq_none_iff {links : List String} :
    links.find? (tells t) = none ↔ ∀ link ∈ links, TellsNothing t link := by
  simp only [List.find?_eq_none, Bool.not_eq_true, tells_eq_false_iff]

section

variable (paths : SysPaths) (t : HostTree) (wwn : String)

/-- The paths at which the device of a volume is looked for. -/
def wwnLinks : List String := (wwnLinkNames wwn).map (Path.below paths.diskById)

theorem wwnDevice_eq :
    wwnDevice paths t wwn = match (wwnLinks paths wwn).find? (tells t) with
      | none => .error (.notFound ("device for WWN " ++ wwn))
      | some link => match readDevice t link with
        | .ok none => .error (.notFound ("device for WWN " ++ wwn))
        | .ok (some device) => .ok (link, device)
        | .error f => .error (.unreadable link f) := by
  simp only [wwnDevice, firstLinked?_eq, wwnLinks]
  cases List.find? (tells t) ((wwnLinkNames wwn).map (Path.below paths.diskById)) with
  | none => rfl
  | some link =>
    dsimp only
    cases readDevice t link with
    | error f => rfl
    | ok found => cases found <;> rfl

end

theorem wwnDevice_eq_ok_iff {paths : SysPaths} {wwn : String} :
    wwnDevice paths t wwn = .ok (link, device) ↔
      ComesFirst t (wwnLinks paths wwn) link ∧ LeadsTo t link device := by
  rw [wwnDevice_eq]
  constructor
  · intro found
    split at found
    next => cases found
    next first isFirst =>
      split at found
      next => cases found
      next told read =>
        cases found
        exact ⟨(find?_tells_eq_some_iff.1 isFirst).2, readDevice_eq_some_iff.1 read⟩
      next => cases found
  · rintro ⟨isFirst, leads⟩
    have read := readDevice_eq_some_iff.2 leads
    have telling : tells t link = true := by rw [tells, read]
    simp only [find?_tells_eq_some_iff.2 ⟨telling, isFirst⟩, read]

theorem wwnDevice_eq_unreadable_iff {paths : SysPaths} {wwn : String} :
    wwnDevice paths t wwn = .error (.unreadable link f) ↔
      ComesFirst t (wwnLinks paths wwn) link ∧ Obstructed t link f := by
  rw [wwnDevice_eq]
  constructor
  · intro found
    split at found
    next => cases found
    next first isFirst =>
      split at found
      next => cases found
      next => cases found
      next e read =>
        cases found
        exact ⟨(find?_tells_eq_some_iff.1 isFirst).2, readDevice_eq_error_iff.1 read⟩
  · rintro ⟨isFirst, obstructed⟩
    have read := readDevice_eq_error_iff.2 obstructed
    have telling : tells t link = true := by rw [tells, read]
    simp only [find?_tells_eq_some_iff.2 ⟨telling, isFirst⟩, read]

/-- What fails to find a device says that there is none, or where it could not be told. -/
theorem wwnDevice_eq_error {paths : SysPaths} {wwn : String} {e : StorageError}
    (failed : wwnDevice paths t wwn = .error e) :
    (e = .notFound ("device for WWN " ++ wwn) ∧
        ∀ link ∈ wwnLinks paths wwn, TellsNothing t link) ∨
      ∃ link f, e = .unreadable link f := by
  rw [wwnDevice_eq] at failed
  split at failed
  next nowhere =>
    cases failed
    exact Or.inl ⟨rfl, find?_tells_eq_none_iff.1 nowhere⟩
  next link isFirst =>
    have telling := (find?_tells_eq_some_iff.1 isFirst).1
    split at failed
    next read =>
      rw [tells, read] at telling
      cases telling
    next => cases failed
    next f read =>
      cases failed
      exact Or.inr ⟨link, f, rfl⟩

/-- The device of a volume is told by the first of its three links that tells anything: a link that
leads to a device gives that device, one of which it cannot be told whether it stands gives a
failure that names it, and what is absent, no link, or a link without a device's name is passed
over. The volume is unknown exactly if all three are passed over, and no other failure says so.
A directory and a world wide name without NUL give paths without NUL. -/
theorem wwnDevice_by_first_telling_link (paths : SysPaths) (t : HostTree) (wwn : String) :
    let links := ["dm-uuid-mpath-3" ++ wwn, "nvme-eui." ++ wwn, "wwn-0x" ++ wwn].map
      (Path.below paths.diskById)
    let result := wwnDevice paths t wwn
    let unknown : StorageError := .notFound ("device for WWN " ++ wwn)
    (∀ link device, result = .ok (link, device) ↔
      ComesFirst t links link ∧ LeadsTo t link device) ∧
    (∀ link f, result = .error (.unreadable link f) ↔
      ComesFirst t links link ∧ Obstructed t link f) ∧
    (result = .error unknown ↔ ∀ link ∈ links, TellsNothing t link) ∧
    (∀ e, result = .error e → (e.isNotFound = true ∧ e = unknown) ∨
      (e.isNotFound = false ∧ ∃ link f, e = .unreadable link f)) ∧
    ('\x00' ∉ paths.diskById.toList → '\x00' ∉ wwn.toList →
      ∀ link ∈ links, '\x00' ∉ link.toList) := by
  intro links result unknown
  refine ⟨fun _ _ => wwnDevice_eq_ok_iff, fun _ _ => wwnDevice_eq_unreadable_iff, ⟨?_, ?_⟩, ?_, ?_⟩
  · intro failed
    rcases wwnDevice_eq_error failed with ⟨-, nothing⟩ | ⟨link, f, other⟩
    · exact nothing
    · simp [unknown] at other
  · intro nothing
    have nowhere : (wwnLinks paths wwn).find? (tells t) = none := find?_tells_eq_none_iff.2 nothing
    change wwnDevice paths t wwn = _
    rw [wwnDevice_eq, nowhere]
  · intro e failed
    rcases wwnDevice_eq_error failed with ⟨rfl, -⟩ | ⟨link, f, rfl⟩
    · exact Or.inl ⟨rfl, rfl⟩
    · exact Or.inr ⟨rfl, link, f, rfl⟩
  · intro inDirectory inName link listed
    obtain ⟨name, isName, rfl⟩ := List.mem_map.1 listed
    refine HostTree.notMem_below (by decide) inDirectory ?_
    simp only [List.mem_cons, List.not_mem_nil, or_false] at isName
    rcases isName with rfl | rfl | rfl <;> simp [inName]

end HostStorage
