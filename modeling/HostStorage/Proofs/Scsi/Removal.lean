import HostStorage.Proofs.Path.Walk
import HostStorage.Proofs.Scsi.Sweep
import HostStorage.Scsi.Disk

/-!
# When a disk is taken off

Taking a disk off reads the state of the disk before it writes anything. What stands in the way is
found in a fixed order (`Hinders`): no name, a state that cannot be read, a blocked disk, and last
of all a file that cannot be written. Only with none of them is there a write, so a disk that is
blocked, or about whose state nothing is known, stays (`removeDisk_spares_blocked`).
-/
namespace HostStorage

/-- What stands in the way of taking a disk off, the first of the reasons that hold. -/
inductive Hinders (t : HostTree) (path device stateFile deleteFile : String) : StorageError → Prop
  | unnamed (empty : device = "") : Hinders t path device stateFile deleteFile (.invalidDevice path)
  | unknown (named : device ≠ "") {f : IoFailure} (unread : t.contentText stateFile = .error f) :
      Hinders t path device stateFile deleteFile (.unreadable stateFile f)
  | blocked (named : device ≠ "") {state : String} (read : t.contentText stateFile = .ok state)
      (isBlocked : Text.trimmed state = "blocked") :
      Hinders t path device stateFile deleteFile (.deviceBlocked device)
  | unwritable (named : device ≠ "") {state : String} (read : t.contentText stateFile = .ok state)
      (unblocked : Text.trimmed state ≠ "blocked") {f : IoFailure}
      (failed : t.writablePlace deleteFile = .error f) :
      Hinders t path device stateFile deleteFile (.unwritable deleteFile f)

/-- A disk that can be taken off: it has a name, its state is known and it is not blocked, and the
file that takes it off can be written. -/
structure Removable (t : HostTree) (device stateFile deleteFile : String) : Prop where
  named : device ≠ ""
  unblocked : ∃ state, t.contentText stateFile = .ok state ∧ Text.trimmed state ≠ "blocked"
  writable : ∃ place, t.writablePlace deleteFile = .ok place

variable {t : HostTree} {path device stateFile deleteFile : String}

/-- What stands in the way is no search that came to nothing. -/
theorem Hinders.isNotFound_eq {e : StorageError}
    (hinders : Hinders t path device stateFile deleteFile e) : e.isNotFound = false := by
  cases hinders <;> rfl

/-- There is one first reason, and none for a disk that can be taken off. -/
theorem Hinders.unique {e e' : StorageError}
    (first : Hinders t path device stateFile deleteFile e)
    (second : Hinders t path device stateFile deleteFile e') : e = e' := by
  cases first <;> cases second <;> simp_all

theorem Hinders.not_removable {e : StorageError}
    (hinders : Hinders t path device stateFile deleteFile e) :
    ¬ Removable t device stateFile deleteFile := by
  intro removable
  obtain ⟨named, ⟨state, read, unblocked⟩, ⟨place, writable⟩⟩ := removable
  cases hinders <;> simp_all

/-! ## How it goes -/

theorem deviceName_of_standsLast (last : Path.StandsLast path device) :
    deviceName path = if device = "" then .error (.invalidDevice path) else .ok device := by
  rw [deviceName, Path.afterSlash_eq_iff.2 last]
  by_cases empty : device = "" <;> simp [empty]

/-- Taking a disk off fails for the first reason and leaves the tree as it is, or there is no reason
and the order to take the disk off is carried out. -/
theorem removeDisk_cases (paths : SysPaths) (t : HostTree) (last : Path.StandsLast path device)
    (isState : diskAttribute paths device "state" = stateFile)
    (isDelete : diskAttribute paths device "delete" = deleteFile) :
    (∃ e, Hinders t path device stateFile deleteFile e ∧
      removeDisk paths t path = (.error e, t)) ∨
    Removable t device stateFile deleteFile ∧ ∃ after, removeDisk paths t path = (.ok (), after) ∧
      Carried t [⟨deleteFile, "1"⟩] [⟨deleteFile, none⟩] after := by
  have name := deviceName_of_standsLast last
  by_cases empty : device = ""
  · left
    refine ⟨_, .unnamed empty, ?_⟩
    simp only [removeDisk, removalOrder, name, if_pos empty, bind, Except.bind, carryOut]
  rw [if_neg empty] at name
  cases read : t.contentText stateFile with
  | error f =>
    left
    refine ⟨_, .unknown empty read, ?_⟩
    simp only [removeDisk, removalOrder, name, isState, read, Except.mapError, bind, Except.bind,
      carryOut]
  | ok state =>
    by_cases isBlocked : Text.trimmed state = "blocked"
    · left
      refine ⟨_, .blocked empty read isBlocked, ?_⟩
      simp only [removeDisk, removalOrder, name, isState, read, Except.mapError, bind, Except.bind,
        carryOut, isBlocked, beq_self_eq_true, if_true]
    · have order : removalOrder paths t path = .ok ⟨deleteFile, "1"⟩ := by
        have unblocked : ¬ (Text.trimmed state == "blocked") = true := by simpa using isBlocked
        simp only [removalOrder, name, isState, isDelete, read, Except.mapError, bind, Except.bind,
          if_neg unblocked, pure, Except.pure]
      have written := HostTree.written_eq t deleteFile "1"
      cases writable : t.writablePlace deleteFile with
      | error f =>
        left
        refine ⟨_, .unwritable empty read isBlocked writable, ?_⟩
        simp only [removeDisk, order, carryOut, Order.require, written, writable, Except.map]
      | ok place =>
        right
        have carried := carried_carryOut ⟨deleteFile, "1"⟩ t
        refine ⟨⟨empty, ⟨state, read, isBlocked⟩, ⟨place, writable⟩⟩,
          t.append place (Utf8.bytes "1"), ?_, ?_⟩
        · simp only [removeDisk, order, carryOut, Order.require, written, writable, Except.map]
        · simpa only [Order.carryOut, written, writable, Except.map] using carried

/-- A disk is taken off exactly if its path ends with a name, its state can be read as text and is
not blocked, and the file that takes it off can be written; then that file is written once and
nothing else changes. Otherwise the tree stays as it is, and the first reason is told, which is
never that a search came to nothing. -/
theorem removeDisk_spares_blocked (paths : SysPaths) (t : HostTree) (path : String) :
    ∃ device, Path.StandsLast path device ∧
      let directory := Path.below (Path.below paths.sysBlock device) "device"
      let stateFile := Path.below directory "state"
      let deleteFile := Path.below directory "delete"
      let result := (removeDisk paths t path).1
      let after := (removeDisk paths t path).2
      (result = .ok () ↔ Removable t device stateFile deleteFile) ∧
      (result = .ok () → Carried t [⟨deleteFile, "1"⟩] [⟨deleteFile, none⟩] after) ∧
      (∀ e, result = .error e ↔ Hinders t path device stateFile deleteFile e) ∧
      ∀ e, result = .error e → after = t ∧ e.isNotFound = false := by
  have last : Path.StandsLast path (Path.afterSlash path) := Path.afterSlash_eq_iff.1 rfl
  refine ⟨Path.afterSlash path, last, ?_⟩
  dsimp only
  rcases removeDisk_cases paths t last rfl rfl with
    ⟨e, hinders, failed⟩ | ⟨removable, after, succeeded, carried⟩
  · rw [failed]
    refine ⟨⟨nofun, fun removable => absurd removable hinders.not_removable⟩, nofun, ?_, ?_⟩
    · intro e'
      constructor
      · intro same
        cases same
        exact hinders
      · intro hinders'
        rw [hinders.unique hinders']
    · intro e' same
      cases same
      exact ⟨rfl, hinders.isNotFound_eq⟩
  · rw [succeeded]
    refine ⟨⟨fun _ => removable, fun _ => rfl⟩, fun _ => carried, ?_, nofun⟩
    intro e
    exact ⟨nofun, fun hinders => absurd removable hinders.not_removable⟩

end HostStorage
