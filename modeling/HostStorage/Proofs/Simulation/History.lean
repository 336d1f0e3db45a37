import HostStorage.Proofs.Result
import HostStorage.Simulation.State

/-!
# The mount table of a simulated host over a run

What a simulated host shows as mounted follows from the requests that succeeded: every mount makes
one record at the end of the table, a record goes when its path is unmounted, and formatting changes
the type of what is on a device. `MountRecord.after` says this of one record and all that was done
since it was made, without the states in between, and `record?_eq_some_iff` says which record a
mount makes. One request acts on the table as it does on each record (`mounts_of_answer`), so a run
does (`mounts_follow_history`).
-/
namespace HostStorage

structure MountCall where
  source : String
  target : String
  deriving DecidableEq

/-- What a request mounts, and where. -/
def Request.mountCall? : Request → Option MountCall
  | .mount source target .. | .bindMount source target _ | .formatAndMount _ source target .. =>
    some ⟨source, target⟩
  | _ => none

/-- The type and the options of what a request mounts. A bind has no type of its own, and it says
that it is one. -/
def Request.typeAndOptions? : Request → Option (String × List String)
  | .mount _ _ fsType options | .formatAndMount _ _ _ fsType options => some (fsType, options)
  | .bindMount _ _ options => some ("", options ++ ["bind"])
  | _ => none

def Request.unmounted? : Request → Option String
  | .unmount target => some target
  | _ => none

/-- The type that a request gives a device by formatting it. -/
def Request.formatted? (device : String) : Request → Option String
  | .format _ source _ fsType _ => if source = device then some fsType else none
  | _ => none

def Request.changesMounts : Request → Bool
  | .mount .. | .bindMount .. | .formatAndMount .. | .unmount _ | .format .. => true
  | _ => false

def Request.record? (links : HostTree) (mounts : List MountRecord) : Request → Option MountRecord
  | .mount source target fsType options | .formatAndMount _ source target fsType options =>
    some (SimulatedHost.newRecord links mounts source target fsType options)
  | .bindMount source target options =>
    some (SimulatedHost.newRecord links mounts source target "" (options ++ ["bind"]))
  | _ => none

/-- The type of a record after some requests: that of the last of them that formats its device. -/
def MountRecord.typeAfter (m : MountRecord) (since : List Request) : String :=
  (since.filterMap (Request.formatted? m.device)).getLast?.getD m.fsType

/-- What is left of a record after some requests: nothing if one of them unmounts its path, else the
record with its type then. -/
def MountRecord.after (m : MountRecord) (since : List Request) : Option MountRecord :=
  if m.path ∈ since.filterMap Request.unmounted? then none
  else some { m with fsType := m.typeAfter since }

namespace SimulatedHost

inductive Act where
  | request (r : Request)
  | induce (on off : List Fault)

/-- A request that succeeded, with the mounts that it found. -/
structure Success where
  mounts : List MountRecord
  request : Request

/-- A record as it was at first, with the requests that succeeded since. -/
structure Made where
  record : MountRecord
  since : List Request

def Made.left? (m : Made) : Option MountRecord := m.record.after m.since

section

variable (links : HostTree) (s : SimulatedHost)

def next : Act → SimulatedHost
  | .request r => (s.perform links r).2
  | .induce on off => s.induce on off

def run (acts : List Act) : SimulatedHost := acts.foldl (next links) s

def success? : Act → Option Success
  | .request r => if (s.perform links r).1.isOk then some ⟨s.mounts, r⟩ else none
  | .induce .. => none

/-- The requests that succeed in a run, in turn. -/
def history (s : SimulatedHost) : List Act → List Success
  | [] => []
  | act :: rest => (s.success? links act).toList ++ history (s.next links act) rest

/-- The records that are made in a history, in turn. -/
def made : List Success → List Made
  | [] => []
  | done :: later =>
    ((done.request.record? links done.mounts).map (⟨·, later.map (·.request)⟩)).toList ++ made later

end

end SimulatedHost

/-! ## What is left of a record -/

namespace MountRecord

/-- The type after two parts is that after the second, of a record with the type after the first. -/
theorem typeAfter_append (m : MountRecord) (before since : List Request) :
    m.typeAfter (before ++ since) = { m with fsType := m.typeAfter before }.typeAfter since := by
  unfold typeAfter
  rw [List.filterMap_append, List.getLast?_append]
  cases (since.filterMap (Request.formatted? m.device)).getLast? <;> rfl

/-- What is left after two parts is what the second leaves of what the first has left. -/
theorem after_append (m : MountRecord) (before since : List Request) :
    m.after (before ++ since) = (m.after before).bind (·.after since) := by
  unfold after
  rw [List.filterMap_append, typeAfter_append]
  by_cases gone : m.path ∈ before.filterMap Request.unmounted?
  · rw [if_pos gone, if_pos (List.mem_append_left _ gone), Option.bind_none]
  · rw [if_neg gone, Option.bind_some]
    by_cases later : m.path ∈ since.filterMap Request.unmounted?
    · rw [if_pos later, if_pos (List.mem_append_right _ later)]
    · have stays : m.path ∉ before.filterMap Request.unmounted? ++
          since.filterMap Request.unmounted? := by
        rw [List.mem_append]
        exact not_or.2 ⟨gone, later⟩
      rw [if_neg stays, if_neg later]

theorem after_unmount (m : MountRecord) (target : String) :
    m.after [.unmount target] = if m.path = target then none else some m := by
  unfold after
  by_cases same : m.path = target
  · rw [if_pos same, if_pos (by simp [Request.unmounted?, same])]
  · rw [if_neg same, if_neg (by simp [Request.unmounted?, same])]
    rfl

theorem after_format (m : MountRecord) (noDiscard : Bool) (source target fsType : String)
    (options : List String) : m.after [.format noDiscard source target fsType options] =
      some (if m.device = source then { m with fsType } else m) := by
  unfold after typeAfter
  rw [if_neg (by simp [Request.unmounted?])]
  by_cases same : m.device = source
  · simp [Request.formatted?, same]
  · simp [Request.formatted?, same, Ne.symm same]

/-- A request that neither unmounts nor formats leaves every record. -/
theorem after_of_other {r : Request} (keeps : r.unmounted? = none)
    (plain : ∀ device, r.formatted? device = none) (m : MountRecord) : m.after [r] = some m := by
  unfold after typeAfter
  simp [keeps, plain]

theorem filterMap_after_of_other {r : Request} (keeps : r.unmounted? = none)
    (plain : ∀ device, r.formatted? device = none) (mounts : List MountRecord) :
    mounts.filterMap (·.after [r]) = mounts := by
  rw [List.filterMap_congr fun m _ => after_of_other keeps plain m]
  exact List.filterMap_some

theorem filterMap_after_unmount (mounts : List MountRecord) (target : String) :
    mounts.filterMap (·.after [.unmount target]) = mounts.filter (·.path != target) := by
  rw [← List.filterMap_eq_filter]
  apply List.filterMap_congr
  intro m _
  rw [after_unmount, Option.guard]
  by_cases same : m.path = target <;> simp [same]

theorem filterMap_after_format (mounts : List MountRecord) (noDiscard : Bool)
    (source target fsType : String) (options : List String) :
    mounts.filterMap (·.after [.format noDiscard source target fsType options]) =
      mounts.map fun m => if m.device == source then { m with fsType } else m := by
  rw [← List.filterMap_eq_map]
  apply List.filterMap_congr
  intro m _
  rw [after_format]
  by_cases same : m.device = source <;> simp [same]

end MountRecord

namespace SimulatedHost

variable {links : HostTree} {s : SimulatedHost}

/-! ## The record of a mount -/

@[simp] theorem newRecord_path (links : HostTree) (mounts : List MountRecord)
    (source target fsType : String) (options : List String) :
    (newRecord links mounts source target fsType options).path = target := by
  unfold newRecord
  split <;> rfl

/-- The record of a mount has the path, the type and the options that are asked for. What its source
is depends on whether something is mounted there already. -/
theorem newRecord_eq_iff {mounts : List MountRecord} {source target fsType : String}
    {options : List String} {record : MountRecord} :
    newRecord links mounts source target fsType options = record ↔
      record.path = target ∧ record.fsType = fsType ∧ record.options = options ∧
      (∀ above, mounts.find? (·.path == source) = some above →
        record.device = boundDevice ∧ record.source = above.device) ∧
      ((∀ m ∈ mounts, m.path ≠ source) →
        record.device = sourceDevice links source ∧ record.source = "") := by
  obtain ⟨device, path, shown, type, asked⟩ := record
  unfold newRecord
  cases found : mounts.find? (·.path == source) with
  | some above =>
    have mounted : ¬ ∀ m ∈ mounts, m.path ≠ source := fun fresh =>
      fresh above (List.mem_of_find?_eq_some found) (by simpa using List.find?_some found)
    simp only [MountRecord.mk.injEq, Option.some.injEq, forall_eq', mounted, false_implies]
    grind
  | none =>
    have fresh : ∀ m ∈ mounts, m.path ≠ source := by simpa using found
    simp only [MountRecord.mk.injEq, reduceCtorEq, false_implies, implies_true]
    grind

/-- A request makes a record exactly if it mounts something. -/
theorem record?_eq (links : HostTree) (mounts : List MountRecord) (r : Request) :
    r.record? links mounts = r.mountCall?.bind fun call => r.typeAndOptions?.map fun asked =>
      newRecord links mounts call.source call.target asked.1 asked.2 := by
  cases r <;> rfl

theorem record?_eq_some_iff {r : Request} {mounts : List MountRecord} {record : MountRecord} :
    r.record? links mounts = some record ↔ ∃ call, r.mountCall? = some call ∧
      r.typeAndOptions? = some (record.fsType, record.options) ∧ record.path = call.target ∧
      (∀ above, mounts.find? (·.path == call.source) = some above →
        record.device = boundDevice ∧ record.source = above.device) ∧
      ((∀ m ∈ mounts, m.path ≠ call.source) →
        record.device = sourceDevice links call.source ∧ record.source = "") := by
  simp only [record?_eq, Option.bind_eq_some_iff, Option.map_eq_some_iff, newRecord_eq_iff]
  constructor
  · rintro ⟨call, isCall, ⟨fsType, options⟩, asked, path, rfl, rfl, shows⟩
    exact ⟨call, isCall, asked, path, shows⟩
  · rintro ⟨call, isCall, asked, path, shows⟩
    exact ⟨call, isCall, _, asked, path, rfl, rfl, shows⟩

/-- A request that mounts something makes its record, and does nothing to the others. -/
theorem record?_of_mountCall? {r : Request} {call : MountCall} (isCall : r.mountCall? = some call)
    (links : HostTree) (mounts : List MountRecord) :
    r.unmounted? = none ∧ (∀ device, r.formatted? device = none) ∧
      ∃ fsType options, r.record? links mounts =
        some (newRecord links mounts call.source call.target fsType options) := by
  cases r with
  | mount | bindMount | formatAndMount =>
    cases isCall
    exact ⟨rfl, fun _ => rfl, _, _, rfl⟩
  | _ => cases isCall

/-! ## One act -/

/-- A request fails and leaves the state, or it is answered. -/
theorem perform_cases (links : HostTree) (s : SimulatedHost) (r : Request) :
    (∃ e, s.perform links r = (.error e, s)) ∨
      ∃ reply t, s.answer links r = .ok (reply, t) ∧ s.perform links r = (.ok reply, t) := by
  unfold perform
  split
  · exact Or.inl ⟨_, rfl⟩
  · split
    next reply t answered => exact Or.inr ⟨reply, t, answered, rfl⟩
    next e _ => exact Or.inl ⟨e, rfl⟩

/-- A request that changes mounts succeeds exactly when none of its faults is to occur. -/
theorem succeeds_iff_no_fault {r : Request} (changes : r.changesMounts = true) :
    (s.perform links r).1 = .ok .done ↔ ∀ fault ∈ Fault.ofRequest r, fault ∉ s.faults := by
  have answered : ∃ t, s.answer links r = .ok (.done, t) := by
    cases r with
    | mount source target fsType options => exact ⟨_, rfl⟩
    | bindMount source target options => exact ⟨_, rfl⟩
    | formatAndMount noDiscard source target fsType options => exact ⟨_, rfl⟩
    | unmount target => exact ⟨_, rfl⟩
    | format noDiscard source target fsType options => exact ⟨_, rfl⟩
    | _ => cases changes
  obtain ⟨t, answered⟩ := answered
  unfold perform
  cases found : (Fault.ofRequest r).find? s.faults.contains with
  | none =>
    rw [answered]
    refine ⟨fun _ fault listed induced => ?_, fun _ => rfl⟩
    exact List.find?_eq_none.1 found fault listed (List.contains_iff_mem.2 induced)
  | some fault =>
    have induced : fault ∈ s.faults := List.contains_iff_mem.1 (List.find?_some found)
    refine ⟨nofun, fun free => ?_⟩
    exact absurd induced (free fault (List.mem_of_find?_eq_some found))

/-- An answered request does to the mounts what it does to each of them, and then adds the record
that it makes. -/
theorem mounts_of_answer {r : Request} {reply : Reply} {t : SimulatedHost}
    (answered : s.answer links r = .ok (reply, t)) :
    t.mounts = s.mounts.filterMap (·.after [r]) ++ (r.record? links s.mounts).toList := by
  cases r with
  | unmount target =>
    cases answered
    rw [MountRecord.filterMap_after_unmount]
    exact (List.append_nil _).symm
  | format noDiscard source target fsType options =>
    cases answered
    rw [MountRecord.filterMap_after_format]
    exact (List.append_nil _).symm
  | deviceNode source => cases answered
  | nvmeController device =>
    rw [MountRecord.filterMap_after_of_other rfl fun _ => rfl]
    dsimp only [answer] at answered
    cases found : s.controllerOf device with
    | error e =>
      rw [found] at answered
      cases answered
    | ok controller =>
      rw [found] at answered
      cases answered
      exact (List.append_nil _).symm
  | mount source target fsType options | formatAndMount noDiscard source target fsType options
  | bindMount source target options =>
    cases answered
    rw [MountRecord.filterMap_after_of_other rfl fun _ => rfl]
    rfl
  | _ =>
    cases answered
    rw [MountRecord.filterMap_after_of_other rfl fun _ => rfl]
    exact (List.append_nil _).symm

/-- An act that succeeds is a request that is answered, and leads to the state of the answer. -/
theorem answered_of_success {act : Act} {done : Success}
    (succeeds : s.success? links act = some done) :
    done.mounts = s.mounts ∧
      ∃ reply, s.answer links done.request = .ok (reply, s.next links act) := by
  cases act with
  | induce on off => cases succeeds
  | request r =>
    dsimp only [success?, next] at succeeds ⊢
    rcases perform_cases links s r with ⟨e, fails⟩ | ⟨reply, t, answered, performed⟩
    · rw [fails] at succeeds
      cases succeeds
    · rw [performed] at succeeds ⊢
      cases succeeds
      exact ⟨rfl, reply, answered⟩

/-- Without a success at most the faults change. -/
theorem next_of_no_success {act : Act} (fails : s.success? links act = none) :
    s.next links act = { s with faults := (s.next links act).faults } := by
  cases act with
  | induce on off => rfl
  | request r =>
    dsimp only [success?, next] at fails ⊢
    rcases perform_cases links s r with ⟨e, failed⟩ | ⟨reply, t, _, performed⟩
    · rw [failed]
    · rw [performed] at fails
      cases fails

theorem mounts_of_success {act : Act} {done : Success}
    (succeeds : s.success? links act = some done) :
    done.mounts = s.mounts ∧ (s.next links act).mounts =
      s.mounts.filterMap (·.after [done.request]) ++
        (done.request.record? links s.mounts).toList := by
  obtain ⟨found, _, answered⟩ := answered_of_success succeeds
  exact ⟨found, mounts_of_answer answered⟩

theorem mounts_of_no_success {act : Act} (fails : s.success? links act = none) :
    (s.next links act).mounts = s.mounts := by
  rw [next_of_no_success fails]

/-! ## Runs -/

/-- What one request leaves of some records is what there is for the requests after it. -/
theorem filterMap_left_cons (mounts : List MountRecord) (r : Request) (since : List Request) :
    (mounts.map (Made.mk · (r :: since))).filterMap Made.left? =
      ((mounts.filterMap (·.after [r])).map (Made.mk · since)).filterMap Made.left? := by
  rw [List.filterMap_map, List.filterMap_map, List.filterMap_filterMap]
  apply List.filterMap_congr
  intro m _
  exact m.after_append [r] since

theorem filterMap_left_nil (mounts : List MountRecord) :
    (mounts.map (Made.mk · [])).filterMap Made.left? = mounts := by
  rw [List.filterMap_map]
  exact List.filterMap_some

/-- The mounts after a run are what is left of those at its start and of those made in it. -/
theorem mounts_run (links : HostTree) (s : SimulatedHost) (acts : List Act) :
    (s.run links acts).mounts =
      (s.mounts.map (Made.mk · ((s.history links acts).map (·.request)))).filterMap Made.left? ++
        (made links (s.history links acts)).filterMap Made.left? := by
  induction acts generalizing s with
  | nil => exact ((List.append_nil _).trans (filterMap_left_nil s.mounts)).symm
  | cons act rest ih =>
    rw [run, List.foldl_cons, ← run, ih, history]
    cases succeeds : s.success? links act with
    | none =>
      rw [mounts_of_no_success succeeds]
      rfl
    | some done =>
      obtain ⟨found, changed⟩ := mounts_of_success succeeds
      rw [changed, Option.toList_some, List.singleton_append, List.map_cons, made, found]
      rw [List.map_append, List.filterMap_append, List.filterMap_append, ← filterMap_left_cons,
        List.append_assoc, Option.toList_map]

/-! ## Undoing -/

/-- A request that makes a record and is answered does nothing else. -/
theorem answer_of_record? {r : Request} {m : MountRecord}
    (makes : r.record? links s.mounts = some m) :
    s.answer links r = .ok (.done, { s with mounts := s.mounts ++ [m] }) := by
  cases r with
  | mount source target fsType options | formatAndMount noDiscard source target fsType options
  | bindMount source target options =>
    cases makes
    rfl
  | _ => cases makes

theorem perform_unmount (links : HostTree) (s : SimulatedHost) (target : String) :
    s.perform links (.unmount target) =
      if .unmount ∈ s.faults then (.error (.induced Fault.unmount.operation), s)
      else (.ok .done, { s with mounts := s.mounts.filter (·.path != target) }) := by
  unfold perform
  rw [show Fault.ofRequest (.unmount target) = [.unmount] from rfl]
  by_cases fails : .unmount ∈ s.faults
  · have induced : s.faults.contains .unmount = true := List.contains_iff_mem.2 fails
    rw [if_pos fails, List.find?_cons_of_pos induced]
  · have free : ¬ s.faults.contains .unmount = true := fun induced =>
      fails (List.contains_iff_mem.1 induced)
    rw [if_neg fails, List.find?_cons_of_neg free]
    rfl

theorem filter_of_fresh {mounts : List MountRecord} {target : String}
    (fresh : ∀ m ∈ mounts, m.path ≠ target) : mounts.filter (·.path != target) = mounts := by
  rw [List.filter_eq_self]
  intro m listed
  exact bne_iff_ne.2 (fresh m listed)

/-- Unmounting what has just been mounted restores the state. -/
theorem unmount_after_mount {r : Request} {call : MountCall} (isCall : r.mountCall? = some call)
    (fresh : ∀ m ∈ s.mounts, m.path ≠ call.target) (unmounts : .unmount ∉ s.faults) :
    s.run links [.request r, .request (.unmount call.target)] = s := by
  change ((s.perform links r).2.perform links (.unmount call.target)).2 = s
  obtain ⟨-, -, fsType, options, makes⟩ := record?_of_mountCall? isCall links s.mounts
  rcases perform_cases links s r with ⟨e, fails⟩ | ⟨reply, t, answered, performed⟩
  · rw [fails, perform_unmount, if_neg unmounts, filter_of_fresh fresh]
  · rw [answer_of_record? makes] at answered
    cases answered
    rw [performed, perform_unmount, if_neg unmounts]
    have restored : (s.mounts ++ [newRecord links s.mounts call.source call.target fsType
        options]).filter (·.path != call.target) = s.mounts := by
      rw [List.filter_append, filter_of_fresh fresh]
      simp
    simp only [restored]

/-- Unmounting again answers the same and changes nothing more. -/
theorem perform_unmount_again (links : HostTree) (s : SimulatedHost) (target : String) :
    (s.perform links (.unmount target)).2.perform links (.unmount target) =
      s.perform links (.unmount target) := by
  rw [perform_unmount links s]
  split
  next fails => rw [perform_unmount, if_pos fails]
  next succeeds =>
    rw [perform_unmount, if_neg succeeds]
    simp only [List.filter_filter, Bool.and_self]

/-- After any run the table is the one at its start followed by one record for each mount that
succeeded, in turn, as each is after the requests that succeeded since: gone if its path has been
unmounted, else with the type of the last format of its device, if there was one. The record of a
mount has the path, the type and the options that were asked for. If what it mounts is a mounted
path, its device is the placeholder and its source the device that was first mounted there,
otherwise its device is what it mounts. What changes mounts succeeds unless one of its faults is to
occur. Unmounting what has just been mounted where nothing was restores the state, and unmounting
twice is unmounting once. -/
theorem mounts_follow_history (links : HostTree) (s : SimulatedHost) :
    (∀ acts, (s.run links acts).mounts =
      (s.mounts.map (Made.mk · ((s.history links acts).map (·.request))) ++
        made links (s.history links acts)).filterMap Made.left?) ∧
    (∀ (r : Request) mounts record, r.record? links mounts = some record ↔
      ∃ call, r.mountCall? = some call ∧
        r.typeAndOptions? = some (record.fsType, record.options) ∧ record.path = call.target ∧
        (∀ above, mounts.find? (·.path == call.source) = some above →
          record.device = boundDevice ∧ record.source = above.device) ∧
        ((∀ m ∈ mounts, m.path ≠ call.source) →
          record.device = sourceDevice links call.source ∧ record.source = "")) ∧
    (∀ r : Request, r.changesMounts = true → ((s.perform links r).1 = .ok .done ↔
      ∀ fault ∈ Fault.ofRequest r, fault ∉ s.faults)) ∧
    (∀ (r : Request) call, r.mountCall? = some call → (∀ m ∈ s.mounts, m.path ≠ call.target) →
      .unmount ∉ s.faults → s.run links [.request r, .request (.unmount call.target)] = s) ∧
    ∀ target, (s.perform links (.unmount target)).2.perform links (.unmount target) =
      s.perform links (.unmount target) := by
  refine ⟨fun acts => ?_, fun r mounts record => record?_eq_some_iff,
    fun r changes => succeeds_iff_no_fault changes,
    fun r call isCall fresh unmounts => unmount_after_mount isCall fresh unmounts,
    perform_unmount_again links s⟩
  rw [List.filterMap_append]
  exact mounts_run links s acts

end SimulatedHost
end HostStorage
