import HostStorage.Proofs.Simulation.History

/-!
# What requests change on a simulated host

A request that fails leaves the whole state. One that succeeds changes the part that it is about:
mounts, the units that were scanned for, or the devices of volumes, which it can only forget. So
after any run the scans are those of the rescans that succeeded, in turn, and no volume has got
another device (`failures_change_nothing`). Each operation that can be made to fail has a fault of
its own (`Fault.own?_eq_iff`).
-/
namespace HostStorage

def Request.rescanned? : Request → Option String
  | .rescan _ lun => some lun
  | _ => none

def Request.forgetsDevices : Request → Bool
  | .removeDisk _ | .multipath .. => true
  | _ => false

/-- The fault of an operation itself, as opposed to one of an operation that it goes on as. -/
def Fault.own? (r : Request) : Option Fault := (Fault.ofRequest r).head?

/-- Requests have the same fault of their own only if they ask for the same operation. -/
theorem Fault.own?_eq_iff (r other : Request) :
    Fault.own? r = Fault.own? other ↔ r.ctorIdx = other.ctorIdx := by
  cases r <;> cases other <;> first | exact iff_of_true rfl rfl | exact iff_of_false nofun nofun

namespace SimulatedHost

/-- What a request may have changed when it succeeded. -/
structure Framed (r : Request) (s t : SimulatedHost) : Prop where
  mounts : r.changesMounts = false → t.mounts = s.mounts
  rescans : t.rescans = s.rescans ++ r.rescanned?.toList
  forgets : t.wwnDevices.Sublist s.wwnDevices
  wwnDevices : r.forgetsDevices = false → t.wwnDevices = s.wwnDevices
  others : t = { s with mounts := t.mounts, rescans := t.rescans, wwnDevices := t.wwnDevices }

variable {links : HostTree} {s t : SimulatedHost} {r : Request}

/-! ## One request -/

/-- A request that neither rescans nor forgets devices, and changes mounts at most. -/
theorem framed_of_mounts (quiet : r.rescanned? = none) (mounts : List MountRecord)
    (kept : r.changesMounts = false → mounts = s.mounts) : Framed r s { s with mounts } where
  mounts := kept
  rescans := by rw [quiet, Option.toList_none, List.append_nil]
  forgets := List.Sublist.refl _
  wwnDevices _ := rfl
  others := rfl

theorem framed_of_quiet (quiet : r.rescanned? = none) : Framed r s s :=
  framed_of_mounts quiet s.mounts fun _ => rfl

theorem framed_of_answer {reply : Reply} (answered : s.answer links r = .ok (reply, t)) :
    Framed r s t := by
  cases r with
  | mount source target fsType options | bindMount source target options
  | formatAndMount noDiscard source target fsType options | unmount target
  | format noDiscard source target fsType options =>
    cases answered
    exact framed_of_mounts rfl _ nofun
  | rescan targets lun =>
    cases answered
    exact ⟨fun _ => rfl, rfl, List.Sublist.refl _, fun _ => rfl, rfl⟩
  | removeDisk path =>
    cases answered
    exact ⟨fun _ => rfl, (List.append_nil _).symm, List.filter_sublist, nofun, rfl⟩
  | multipath deadline root arguments =>
    cases answered
    exact ⟨fun _ => rfl, (List.append_nil _).symm, List.nil_sublist _, nofun, rfl⟩
  | deviceNode source => cases answered
  | nvmeController device =>
    dsimp only [answer] at answered
    cases found : s.controllerOf device with
    | error e =>
      rw [found] at answered
      cases answered
    | ok controller =>
      rw [found] at answered
      cases answered
      exact framed_of_quiet rfl
  | _ =>
    cases answered
    exact framed_of_quiet rfl

/-- What is answered is never a fault. -/
theorem answer_ne_induced (links : HostTree) (s : SimulatedHost) (r : Request) (name : String) :
    s.answer links r ≠ .error (.induced name) := by
  cases r with
  | nvmeController device =>
    dsimp only [answer, controllerOf]
    split
    · split <;> exact nofun
    · exact nofun
  | _ => exact nofun

/-- A request fails with a fault exactly if one of its faults is to occur, be it the one of an
operation that it goes on as. -/
theorem induced_iff (links : HostTree) (s : SimulatedHost) (r : Request) :
    (∃ name, (s.perform links r).1 = .error (.induced name)) ↔
      ∃ fault ∈ Fault.ofRequest r, fault ∈ s.faults := by
  unfold perform
  cases found : (Fault.ofRequest r).find? s.faults.contains with
  | some fault =>
    have induced : fault ∈ s.faults := List.contains_iff_mem.1 (List.find?_some found)
    exact iff_of_true ⟨_, rfl⟩ ⟨fault, List.mem_of_find?_eq_some found, induced⟩
  | none =>
    refine iff_of_false ?_ ?_
    · rintro ⟨name, failed⟩
      dsimp only at failed
      split at failed
      next => cases failed
      next e answered =>
        cases failed
        exact answer_ne_induced links s r name answered
    · rintro ⟨fault, listed, induced⟩
      exact List.find?_eq_none.1 found fault listed (List.contains_iff_mem.2 induced)

/-- The failure is named after the operation's own fault if that is to occur. -/
theorem perform_of_own? {own : Fault} (is_own : Fault.own? r = some own)
    (induced : own ∈ s.faults) :
    s.perform links r = (.error (.induced own.operation), s) := by
  obtain ⟨others, listed⟩ := List.head?_eq_some_iff.1 is_own
  unfold perform
  rw [listed, List.find?_cons_of_pos (List.contains_iff_mem.2 induced)]

/-! ## Runs -/

theorem framed_of_success {act : Act} {done : Success}
    (succeeds : s.success? links act = some done) : Framed done.request s (s.next links act) := by
  obtain ⟨_, _, answered⟩ := answered_of_success succeeds
  exact framed_of_answer answered

theorem rescans_run (links : HostTree) (s : SimulatedHost) (acts : List Act) :
    (s.run links acts).rescans =
      s.rescans ++ (s.history links acts).filterMap (·.request.rescanned?) := by
  induction acts generalizing s with
  | nil => exact (List.append_nil _).symm
  | cons act rest ih =>
    rw [run, List.foldl_cons, ← run, ih, history]
    cases succeeds : s.success? links act with
    | none => rw [next_of_no_success succeeds, Option.toList_none, List.nil_append]
    | some done =>
      rw [(framed_of_success succeeds).rescans, Option.toList_some, List.singleton_append,
        List.append_assoc, List.filterMap_cons]
      cases done.request.rescanned? <;> rfl

theorem wwnDevices_run (links : HostTree) (s : SimulatedHost) (acts : List Act) :
    (s.run links acts).wwnDevices.Sublist s.wwnDevices := by
  induction acts generalizing s with
  | nil => exact List.Sublist.refl _
  | cons act rest ih =>
    have step : (s.next links act).wwnDevices.Sublist s.wwnDevices := by
      cases succeeds : s.success? links act with
      | none => rw [next_of_no_success succeeds]
      | some done => exact (framed_of_success succeeds).forgets
    exact (ih (s.next links act)).trans step

/-- A request that fails leaves the state, and one that succeeds changes only what it is about. It
fails with a fault exactly if one of its faults is to occur; the operation's own one, which no other
operation has, names the failure, and a bind mount also fails as a mount. Over any run the scans are
those of the successful rescans in turn, and devices of volumes are only forgotten. -/
theorem failures_change_nothing (links : HostTree) (s : SimulatedHost) :
    (∀ r, match s.perform links r with
      | (.error _, t) => t = s
      | (.ok _, t) => Framed r s t) ∧
    (∀ r, (∃ name, (s.perform links r).1 = .error (.induced name)) ↔
      ∃ fault ∈ Fault.ofRequest r, fault ∈ s.faults) ∧
    (∀ r, ∀ own ∈ Fault.own? r, own ∈ s.faults →
      (s.perform links r).1 = .error (.induced own.operation)) ∧
    (∀ r other, Fault.own? r = Fault.own? other ↔ r.ctorIdx = other.ctorIdx) ∧
    (∀ source target options, .mount ∈ s.faults →
      ∃ name, (s.perform links (.bindMount source target options)).1 = .error (.induced name)) ∧
    ∀ acts, (s.run links acts).rescans =
        s.rescans ++ (s.history links acts).filterMap (·.request.rescanned?) ∧
      (s.run links acts).wwnDevices.Sublist s.wwnDevices := by
  refine ⟨fun r => ?_, induced_iff links s, fun r own is_own induced => ?_, Fault.own?_eq_iff,
    fun source target options induced => ?_,
    fun acts => ⟨rescans_run links s acts, wwnDevices_run links s acts⟩⟩
  · rcases perform_cases links s r with ⟨e, fails⟩ | ⟨reply, t, answered, performed⟩
    · rw [fails]
    · rw [performed]
      exact framed_of_answer answered
  · rw [perform_of_own? is_own induced]
  · exact (induced_iff links s _).2 ⟨.mount, List.mem_cons_of_mem _ List.mem_cons_self, induced⟩

end SimulatedHost
end HostStorage
