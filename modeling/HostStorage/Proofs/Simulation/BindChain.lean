import HostStorage.Proofs.Simulation.History

/-!
# Bind mounts of bind mounts on a simulated host

Mounting a path that is a mount point binds what is mounted there, which may be bound itself. Such
a chain leads back to a mount of something that was no mount point (`BindChain`). The record of the
first bind in it has the device of that mount as its source, and its own device is the placeholder
for bound paths. Every later bind takes its source from a record like this, so it shows the
placeholder and the device is lost (`bind_chain_keeps_device_iff`).
-/
namespace HostStorage

/-- The chain of a call that is made after some earlier ones. If none of those has mounted at its
source, the call is the start of its own chain. Otherwise it binds what the first of those that have
has mounted there, and its chain is that one's with one more bind. -/
inductive BindChain : (earlier : List MountCall) → (call : MountCall) → (depth : Nat) →
    (earliest : List MountCall) → (start : MountCall) → Prop where
  | start {earlier : List MountCall} {call : MountCall}
      (unmounted : ∀ other ∈ earlier, other.target ≠ call.source) :
      BindChain earlier call 0 earlier call
  | bound {before after earliest : List MountCall} {above call start : MountCall} {depth : Nat}
      (isAbove : above.target = call.source)
      (first : ∀ other ∈ before, other.target ≠ call.source)
      (chain : BindChain before above depth earliest start) :
      BindChain (before ++ above :: after) call (depth + 1) earliest start

namespace SimulatedHost

/-- The device of a record at some depth of a chain that starts at a device. -/
def shownDevice (device : String) : Nat → String
  | 0 => device
  | _ + 1 => boundDevice

/-- The source of a record at some depth of a chain that starts at a device: the device of the
record above it. -/
def shownSource (device : String) : Nat → String
  | 0 => ""
  | depth + 1 => shownDevice device depth

/-- A mount table that shows each of some calls, in turn. -/
structure Shows (links : HostTree) (calls : List MountCall) (table : List MountRecord) : Prop where
  paths : table.map (·.path) = calls.map (·.target)
  chains : ∀ {earlier call later depth earliest start}, calls = earlier ++ call :: later →
    BindChain earlier call depth earliest start →
      ∀ record ∈ table[earlier.length]?,
        record.device = shownDevice (sourceDevice links start.source) depth ∧
          record.source = shownSource (sourceDevice links start.source) depth

end SimulatedHost

/-! ## Chains -/

namespace BindChain

variable {earlier earliest : List MountCall} {call start : MountCall} {depth : Nat}

/-- Every call has a chain. -/
theorem exists_of_call (earlier : List MountCall) (call : MountCall) :
    ∃ depth earliest start, BindChain earlier call depth earliest start := by
  cases found : earlier.find? (·.target == call.source) with
  | none =>
    refine ⟨0, earlier, call, .start fun other listed same => ?_⟩
    exact List.find?_eq_none.1 found other listed (beq_iff_eq.2 same)
  | some above =>
    obtain ⟨isAbove, before, after, whole, others⟩ := List.find?_eq_some_iff_append.1 found
    have first : ∀ other ∈ before, other.target ≠ call.source := fun other listed => by
      simpa using others other listed
    have shorter : before.length < earlier.length := by simp [whole]
    -- What is above was made earlier, so there are fewer calls in front of it.
    obtain ⟨depth, earliest, start, chain⟩ := exists_of_call before above
    rw [whole]
    exact ⟨depth + 1, earliest, start, .bound (beq_iff_eq.1 isAbove) first chain⟩
termination_by earlier.length

/-- The start of a chain is one of the calls up to its end, and a chain of its own. -/
theorem isStart (chain : BindChain earlier call depth earliest start) :
    BindChain earliest start 0 earliest start ∧
      ∃ later, earlier ++ [call] = earliest ++ start :: later := by
  induction chain with
  | start unmounted => exact ⟨.start unmounted, [], rfl⟩
  | @bound before after earliest above call start depth isAbove first chain ih =>
    obtain ⟨isStart, later, whole⟩ := ih
    refine ⟨isStart, later ++ after ++ [call], ?_⟩
    calc
      before ++ above :: after ++ [call] = before ++ [above] ++ (after ++ [call]) := by simp
      _ = earliest ++ start :: (later ++ after ++ [call]) := by rw [whole]; simp

end BindChain

namespace SimulatedHost

variable {links : HostTree} {calls : List MountCall} {table : List MountRecord}

/-! ## One call -/

theorem Shows.length_eq (shown : Shows links calls table) : table.length = calls.length := by
  have same := congrArg List.length shown.paths
  simpa using same

theorem Shows.exists_record (shown : Shows links calls table) {earlier later : List MountCall}
    {call : MountCall} (whole : calls = earlier ++ call :: later) :
    ∃ record, table[earlier.length]? = some record ∧ record.path = call.target := by
  have path : (table.map (·.path))[earlier.length]? = some call.target := by
    rw [shown.paths, whole]
    simp
  rw [List.getElem?_map] at path
  exact Option.map_eq_some_iff.1 path

/-- The record at a mounted path is the one that its first call has made. -/
theorem Shows.find?_eq_some {before after : List MountCall} {above : MountCall} {path : String}
    (shown : Shows links (before ++ above :: after) table) (isAbove : above.target = path)
    (first : ∀ other ∈ before, other.target ≠ path) :
    ∃ record ∈ table[before.length]?, table.find? (·.path == path) = some record := by
  obtain ⟨earlier, rest, rfl, paths, others⟩ :=
    List.map_eq_append_iff.1 (shown.paths.trans List.map_append)
  obtain ⟨record, later, rfl, isRecord, -⟩ := List.map_eq_cons_iff.1 others
  have place : earlier.length = before.length := by
    simpa using congrArg List.length paths
  refine ⟨record, by simp [← place], List.find?_eq_some_iff_append.2 ⟨?_, earlier, later, rfl, ?_⟩⟩
  · exact beq_iff_eq.2 (isRecord.trans isAbove)
  · intro other listed
    have target : other.path ∈ before.map (·.target) := paths ▸ List.mem_map_of_mem listed
    obtain ⟨call, listed, same⟩ := List.mem_map.1 target
    simpa [← same] using first call listed

/-- What is mounted next shows what its chain says. -/
theorem Shows.next_record (shown : Shows links calls table) {call start : MountCall} {depth : Nat}
    {earliest : List MountCall} (chain : BindChain calls call depth earliest start)
    (target fsType : String) (options : List String) :
    let record := newRecord links table call.source target fsType options
    record.device = shownDevice (sourceDevice links start.source) depth ∧
      record.source = shownSource (sourceDevice links start.source) depth := by
  cases chain with
  | start unmounted =>
    have absent : table.find? (·.path == call.source) = none := by
      refine List.find?_eq_none.2 fun record listed same => ?_
      have target : record.path ∈ calls.map (·.target) :=
        shown.paths ▸ List.mem_map_of_mem listed
      obtain ⟨other, listed, isTarget⟩ := List.mem_map.1 target
      exact unmounted other listed (isTarget.trans (beq_iff_eq.1 same))
    simp only [newRecord, absent]
    exact ⟨rfl, rfl⟩
  | bound isAbove first chain =>
    obtain ⟨record, there, found⟩ := shown.find?_eq_some isAbove first
    simp only [newRecord, found]
    exact ⟨rfl, (shown.chains rfl chain record there).1⟩

/-- A call that mounts adds a record that shows what its chain says. -/
theorem Shows.mounted (shown : Shows links calls table) (call : MountCall) (fsType : String)
    (options : List String) :
    Shows links (calls ++ [call])
      (table ++ [newRecord links table call.source call.target fsType options]) where
  paths := by simp [shown.paths]
  chains := by
    intro earlier other later depth earliest start whole chain record there
    -- The record is the new one, or it stands in the table since before.
    rcases List.eq_nil_or_concat later with rfl | ⟨between, last, rfl⟩
    · obtain ⟨rfl, same⟩ := List.append_inj' whole rfl
      cases same
      rw [← shown.length_eq, List.getElem?_concat_length, Option.mem_some] at there
      subst there
      exact shown.next_record chain call.target fsType options
    · have split : calls ++ [call] = earlier ++ other :: between ++ [last] := by simpa using whole
      obtain ⟨same, -⟩ := List.append_inj' split rfl
      have inTable : earlier.length < table.length := by
        rw [shown.length_eq, same]
        simp
      rw [List.getElem?_append_left inTable] at there
      exact shown.chains same chain record there

/-- Formatting a device changes nothing that a chain is about. -/
theorem Shows.retyped (shown : Shows links calls table) (type : MountRecord → String) :
    Shows links calls (table.map fun m => { m with fsType := type m }) where
  paths := by
    rw [List.map_map]
    exact shown.paths
  chains := by
    intro earlier call later depth earliest start whole chain record there
    rw [List.getElem?_map] at there
    obtain ⟨before, listed, rfl⟩ := Option.map_eq_some_iff.1 there
    exact shown.chains whole chain before listed

theorem record?_of_mountCall?_eq_none {r : Request} (other : r.mountCall? = none)
    (links : HostTree) (mounts : List MountRecord) : r.record? links mounts = none := by
  rw [record?_eq, other, Option.bind_none]

/-- A request that succeeds and unmounts nothing adds a record if it mounts, and leaves what the
table shows. -/
theorem Shows.of_success {s : SimulatedHost} {act : Act} {done : Success}
    (shown : Shows links calls s.mounts) (succeeds : s.success? links act = some done)
    (stays : done.request.unmounted? = none) :
    Shows links (calls ++ done.request.mountCall?.toList) (s.next links act).mounts := by
  rw [(mounts_of_success succeeds).2]
  cases mounts : done.request.mountCall? with
  | none =>
    have kept : s.mounts.filterMap (·.after [done.request]) =
        s.mounts.map fun m => { m with fsType := m.typeAfter [done.request] } := by
      rw [← List.filterMap_eq_map]
      apply List.filterMap_congr
      intro m _
      rw [MountRecord.after, if_neg (by simp [stays])]
      rfl
    rw [record?_of_mountCall?_eq_none mounts, kept]
    simpa using shown.retyped fun m => m.typeAfter [done.request]
  | some call =>
    obtain ⟨keeps, plain, fsType, options, makes⟩ :=
      record?_of_mountCall? mounts links s.mounts
    rw [makes, MountRecord.filterMap_after_of_other keeps plain]
    exact shown.mounted call fsType options

/-! ## Runs -/

theorem shows_nil (links : HostTree) : Shows links [] [] where
  paths := rfl
  chains := by
    intro earlier call later depth earliest start whole
    simp at whole

/-- What is mounted in a run that unmounts nothing is shown, in turn. -/
theorem Shows.after_run {s : SimulatedHost} (shown : Shows links calls s.mounts) (acts : List Act)
    (stays : ∀ done ∈ s.history links acts, done.request.unmounted? = none) :
    Shows links (calls ++ (s.history links acts).filterMap (·.request.mountCall?))
      (s.run links acts).mounts := by
  induction acts generalizing s calls with
  | nil => exact (List.append_nil calls).symm ▸ shown
  | cons act rest ih =>
    rw [run, List.foldl_cons, ← run]
    rw [history] at stays ⊢
    cases succeeds : s.success? links act with
    | none =>
      rw [succeeds] at stays
      refine ih ?_ stays
      rw [mounts_of_no_success succeeds]
      exact shown
    | some done =>
      rw [succeeds] at stays
      obtain ⟨now, later⟩ := List.forall_mem_cons.1 stays
      have next := ih (shown.of_success succeeds now) later
      rw [Option.toList_some, List.singleton_append, List.filterMap_cons]
      cases mounts : done.request.mountCall? with
      | none => simpa [mounts] using next
      | some call => simpa [mounts] using next

/-! ## What is left of the device -/

/-- Only a source of that name leads to the placeholder: every other one leads to an absolute path,
or nowhere and stands for itself. -/
theorem eq_of_sourceDevice_eq {source : String}
    (same : sourceDevice links source = boundDevice) : source = boundDevice := by
  unfold sourceDevice HostTree.canonical at same
  cases reached : links.canonicalPlace source with
  | error f =>
    rw [reached] at same
    exact same
  | ok place =>
    rw [reached] at same
    have first := congrArg (·.toList.head?) same
    simp [HostTree.pathOf, boundDevice, Except.toOption, Except.map] at first

theorem shownSource_eq_device_iff {device : String} {depth : Nat} (bound : 0 < depth) :
    shownSource device depth = device ↔ depth = 1 ∨ device = boundDevice := by
  obtain _ | _ | depth := depth
  · cases bound
  · exact iff_of_true rfl (Or.inl rfl)
  · simp [shownSource, shownDevice, eq_comm]

theorem shownSource_eq_boundDevice_iff {device : String} {depth : Nat} :
    shownSource device depth = boundDevice ↔ 2 ≤ depth ∨ depth = 1 ∧ device = boundDevice := by
  obtain _ | _ | depth := depth
  · simp [shownSource, boundDevice]
  · simp [shownSource, shownDevice]
  · simp [shownSource, shownDevice]

/-- After a run without an unmount each call that mounted has a record, in turn. The source of a
bind is the device at the start of its chain exactly if the chain is one bind long, or the device is
called as the placeholder. A longer chain always ends in the placeholder, and a mount that is no
bind has no source. -/
theorem bind_chain_keeps_device_iff (links : HostTree) (acts : List Act)
    (stays : ∀ done ∈ ({} : SimulatedHost).history links acts, done.request.unmounted? = none) :
    let calls := (({} : SimulatedHost).history links acts).filterMap (·.request.mountCall?)
    let table := (({} : SimulatedHost).run links acts).mounts
    table.length = calls.length ∧
      ∀ earlier call later, calls = earlier ++ call :: later →
        (∃ depth earliest start, BindChain earlier call depth earliest start) ∧
          ∀ depth earliest start, BindChain earlier call depth earliest start →
            ∃ record origin, table[earlier.length]? = some record ∧
              table[earliest.length]? = some origin ∧
              record.path = call.target ∧ origin.path = start.target ∧
              origin.device = sourceDevice links start.source ∧
              (0 < depth → (record.source = origin.device ↔
                depth = 1 ∨ origin.device = boundDevice)) ∧
              (2 ≤ depth → record.source = boundDevice) ∧
              (record.source = boundDevice → 2 ≤ depth ∨ start.source = boundDevice) ∧
              (depth = 0 → record.source = "") := by
  intro calls table
  have shown : Shows links calls table := (shows_nil links).after_run acts stays
  refine ⟨shown.length_eq, fun earlier call later whole => ⟨BindChain.exists_of_call earlier call,
    fun depth earliest start chain => ?_⟩⟩
  obtain ⟨isStart, between, upTo⟩ := chain.isStart
  have first : calls = earliest ++ start :: (between ++ later) := by
    rw [whole, List.append_cons, upTo, List.append_assoc, List.cons_append]
  obtain ⟨record, there, path⟩ := shown.exists_record whole
  obtain ⟨origin, atStart, originPath⟩ := shown.exists_record first
  obtain ⟨-, source⟩ := shown.chains whole chain record there
  obtain ⟨device, -⟩ := shown.chains first isStart origin atStart
  rw [shownDevice] at device
  rw [← device] at source
  refine ⟨record, origin, there, atStart, path, originPath, device, ?_, ?_, ?_, ?_⟩
  · intro bound
    rw [source]
    exact shownSource_eq_device_iff bound
  · intro twice
    rw [source]
    exact shownSource_eq_boundDevice_iff.2 (Or.inl twice)
  · intro placeholder
    rw [source] at placeholder
    refine (shownSource_eq_boundDevice_iff.1 placeholder).imp_right fun once => ?_
    exact eq_of_sourceDevice_eq (device ▸ once.2)
  · rintro rfl
    exact source

/-- A device is mounted at a private path, bound to a staging path and from there to a pod. -/
def stagedMounts : List Act :=
  [.request (.mount "/dev/sdb" "/mnt/private" "xfs" ["rw"]),
    .request (.bindMount "/mnt/private" "/mnt/staging" []),
    .request (.bindMount "/mnt/staging" "/mnt/pod" [])]

theorem bind_chain_of_staged_mounts :
    let calls : List MountCall := [⟨"/dev/sdb", "/mnt/private"⟩, ⟨"/mnt/private", "/mnt/staging"⟩]
    let table := (({} : SimulatedHost).run .empty stagedMounts).mounts
    (∀ done ∈ ({} : SimulatedHost).history .empty stagedMounts,
      done.request.unmounted? = none) ∧
      BindChain calls ⟨"/mnt/staging", "/mnt/pod"⟩ 2 [] ⟨"/dev/sdb", "/mnt/private"⟩ ∧
      ∃ record origin, table[2]? = some record ∧ table[0]? = some origin ∧
        record.path = "/mnt/pod" ∧ origin.path = "/mnt/private" ∧ record.source = boundDevice := by
  intro calls table
  have stays : ∀ done ∈ ({} : SimulatedHost).history .empty stagedMounts,
      done.request.unmounted? = none := by
    decide
  have staged : BindChain [⟨"/dev/sdb", "/mnt/private"⟩] ⟨"/mnt/private", "/mnt/staging"⟩ 1 []
      ⟨"/dev/sdb", "/mnt/private"⟩ :=
    @BindChain.bound [] [] _ _ _ _ _ rfl nofun (.start nofun)
  have chain : BindChain calls ⟨"/mnt/staging", "/mnt/pod"⟩ 2 [] ⟨"/dev/sdb", "/mnt/private"⟩ :=
    @BindChain.bound [⟨"/dev/sdb", "/mnt/private"⟩] [] _ _ _ _ _ rfl (by decide) staged
  obtain ⟨-, shown⟩ := bind_chain_keeps_device_iff .empty stagedMounts stays
  obtain ⟨-, shown⟩ := shown calls ⟨"/mnt/staging", "/mnt/pod"⟩ [] (by rfl)
  obtain ⟨record, origin, there, atStart, path, originPath, -, -, twice, -⟩ := shown 2 _ _ chain
  exact ⟨stays, chain, record, origin, there, atStart, path, originPath, twice (Nat.le_refl 2)⟩

/-- On a host without files a device stands for itself. -/
theorem sourceDevice_of_empty : sourceDevice .empty "/dev/sdb" = "/dev/sdb" := by
  have steps : HostTree.way "/dev/sdb" = .ok [.stay, .down "dev".toList, .down "sdb".toList] := by
    rfl
  have short : HostTree.isTooLong (some HostTree.pathLimit) [] "dev".toList = false := by decide
  have lost : HostTree.empty.canonicalPlace "/dev/sdb" = .error (.os .noEntry) := by
    simp only [HostTree.canonicalPlace, steps, bind, Except.bind, HostTree.walk,
      HostTree.node?_nil, short]
    rfl
  rw [sourceDevice, HostTree.canonical, lost]
  rfl

/-- The pod shows the placeholder, although nothing of that name has been mounted. -/
theorem staged_mounts_lose_device :
    (({} : SimulatedHost).run .empty stagedMounts).mounts.map (·.path) =
        ["/mnt/private", "/mnt/staging", "/mnt/pod"] ∧
      (({} : SimulatedHost).run .empty stagedMounts).mounts.map (·.device) =
        ["/dev/sdb", "devtmpfs", "devtmpfs"] ∧
      (({} : SimulatedHost).run .empty stagedMounts).mounts.map (·.source) =
        ["", "/dev/sdb", "devtmpfs"] ∧
      "devtmpfs" ∉ ((({} : SimulatedHost).history .empty stagedMounts).filterMap
        (·.request.mountCall?)).map (·.source) := by
  refine ⟨rfl, ?_, ?_, by decide⟩
  · rw [← sourceDevice_of_empty]
    rfl
  · rw [← sourceDevice_of_empty]
    rfl

end SimulatedHost
end HostStorage
