import HostStorage.Host.Service
import HostStorage.Proofs.Host.Names
import HostStorage.Proofs.Path.Walk
import HostStorage.Proofs.Scsi.Rescan
import HostStorage.Proofs.Text.Pieces

/-!
# How the files of a host grow

The requests of a host change its files in one way only: orders to the kernel are added to attribute
files. Each request gives its orders in a sweep, so over a run nothing is made, removed or turned
into something else, and a file grows by the values of the orders that lead to it
(`orders_only_grow_files`). Which orders a request may give is said by `Gives`.
-/
namespace HostStorage

open HostStorage.Path (Name Place)

def HostTree.NamesAreWhole (t : HostTree) : Prop :=
  ∀ place, t.node? place ≠ none → ∀ name ∈ place, '/' ∉ name

/-- The name of a host that is read off a tree. It has no separator unless the names in the tree
have. -/
structure HostTree.NamesHost (t : HostTree) (host : String) : Prop where
  isHost : isHostName host = true
  whole : t.NamesAreWhole → '/' ∉ host.toList

structure EndsWithDevice (path device : String) : Prop where
  isLast : Path.afterSlash path = device
  notEmpty : device ≠ ""
  whole : '/' ∉ device.toList

/-- The orders that a request may give: to the scan file of a host, the file that initialises its
loop, and the two files of a disk. -/
inductive Gives (paths : SysPaths) (isHost : String → Prop) : Request → Order → Prop
  | scan (targets : List String) (lun : String) {host : String} (named : isHost host)
      (channel target : String) :
      Gives paths isHost (.rescan targets lun)
        ⟨Path.below (Path.below paths.scsiHosts host) "scan",
          channel ++ " " ++ target ++ " " ++ Lun.normalized lun⟩
  | initialise {host : String} (named : isHost host) :
      Gives paths isHost .initialiseLoops
        ⟨Path.below (Path.below paths.fcHosts host) "issue_lip", "1"⟩
  | delete {path device : String} (ends : EndsWithDevice path device) :
      Gives paths isHost (.removeDisk path)
        ⟨Path.below (Path.below (Path.below paths.sysBlock device) "device") "delete", "1"⟩
  | rescan {path device : String} (ends : EndsWithDevice path device) :
      Gives paths isHost (.rescanDisk path)
        ⟨Path.below (Path.below (Path.below paths.sysBlock device) "device") "rescan", "1"⟩

/-- The orders that a request gives on a tree; one that fails before its first order gives none. -/
def Request.orders (paths : SysPaths) (t : HostTree) : Request → List Order
  | .rescan targets lun =>
    match rescanPlan paths t targets lun with
    | .ok plan => plan
    | .error _ => []
  | .initialiseLoops =>
    match fcHosts paths t with
    | .ok hosts => hosts.map (loopOrder paths)
    | .error _ => []
  | .removeDisk path =>
    match removalOrder paths t path with
    | .ok o => [o]
    | .error _ => []
  | .rescanDisk path =>
    match resizeOrder paths path with
    | .ok o => [o]
    | .error _ => []
  | _ => []

/-! ## Which orders are given -/

namespace HostTree

variable {t u : HostTree}

theorem Alike.namesAreWhole (alike : t.Alike u) (whole : t.NamesAreWhole) : u.NamesAreWhole := by
  intro place there
  refine whole place fun absent => there ?_
  exact alike.eq_none absent

theorem Alike.namesHost (alike : t.Alike u) {host : String} (named : u.NamesHost host) :
    t.NamesHost host :=
  ⟨named.isHost, fun whole => named.whole (alike.namesAreWhole whole)⟩

/-- What is told of a directory stands in the tree. -/
theorem notMem_of_mem_names (whole : t.NamesAreWhole) {path name : String} {names : List String}
    (told : t.names path = .ok names) (listed : name ∈ names) : '/' ∉ name.toList := by
  obtain ⟨place, _, _, all, _⟩ := (t.names_eq_ok_iff path names).1 told
  obtain ⟨entry, isEntry, rfl⟩ := List.mem_map.1 (all.mem_iff.1 listed)
  have there := mem_rootNames_iff.1 isEntry
  rw [node?_entriesAt t place (by simp)] at there
  rw [String.toList_ofList]
  exact whole (place ++ [entry]) (Option.ne_none_iff_isSome.2 there) entry (by simp)

end HostTree

theorem isHostName_append (rest : String) : isHostName ("host" ++ rest) = true := by
  simp [isHostName, Text.startsWith]

theorem mem_of_mem_splitAt {sep c : Char} {s piece : String} (listed : piece ∈ Text.splitAt sep s)
    (here : c ∈ piece.toList) : c ∈ s.toList := by
  obtain ⟨cs, isPiece, rfl⟩ := List.mem_map.1 listed
  rw [String.toList_ofList] at here
  exact Text.mem_of_mem_fields isPiece here

/-- A piece of a name without its start has no separator that the name has not. -/
theorem notMem_piece {start name piece : String} {sep : Char} (whole : '/' ∉ name.toList)
    (listed : piece ∈ Text.splitAt sep (Text.without start name)) : '/' ∉ piece.toList := by
  intro separator
  have inRest := mem_of_mem_splitAt listed separator
  rw [Text.without, String.toList_ofList] at inRest
  exact whole (Text.withoutStart_subset _ _ inRest)

theorem notMem_host {piece : String} (whole : '/' ∉ piece.toList) :
    '/' ∉ ("host" ++ piece).toList := by
  simpa using whole

variable {paths : SysPaths} {t : HostTree}

/-- The entries of a class are told of its directory. -/
theorem notMem_of_mem_entries (whole : t.NamesAreWhole) {directory name : String}
    {found : Option (List String)} (told : classEntries? t directory = .ok found)
    (listed : name ∈ found.getD []) : '/' ∉ name.toList := by
  unfold classEntries? at told
  split at told
  next names names_eq =>
    cases told
    exact HostTree.notMem_of_mem_names whole names_eq listed
  next =>
    split at told
    · cases told
      exact absurd listed List.not_mem_nil
    · cases told

/-- A host that sees a port is named by a remote port. -/
theorem namesHost_of_fcTargets {wanted : List String} {found : List HostTarget}
    (seen : fcTargets paths t wanted = .ok found) {d : HostTarget} (listed : d ∈ found) :
    t.NamesHost d.host := by
  simp only [fcTargets, bind_eq_ok_iff] at seen
  obtain ⟨entries, told, result⟩ := seen
  cases result
  obtain ⟨host, isHost, rfl⟩ := List.mem_map.1 listed
  obtain ⟨name, isPort, rfl⟩ := List.mem_map.1 (List.mem_eraseDups.1 isHost)
  refine ⟨isHostName_append _, fun whole => notMem_host ?_⟩
  have nameWhole := notMem_of_mem_entries whole told (List.mem_filter.1 isPort).1
  cases pieces : Text.splitAt ':' (Text.without remotePortStart name) with
  | nil => simp
  | cons first others =>
    have isPiece : first ∈ Text.splitAt ':' (Text.without remotePortStart name) := by
      rw [pieces]
      exact List.mem_cons_self
    exact notMem_piece nameWhole isPiece

/-- A host of a session is named by a target directory. -/
theorem namesHost_of_iscsiTargets {wanted : List String} {found : List HostTarget}
    (seen : iscsiTargets paths t wanted = .ok found) {d : HostTarget} (listed : d ∈ found) :
    t.NamesHost d.host := by
  simp only [iscsiTargets, bind_eq_ok_iff] at seen
  obtain ⟨entries, told, result⟩ := seen
  cases result
  obtain ⟨session, isSession, target⟩ := List.mem_filterMap.1 (List.mem_eraseDups.1 listed)
  unfold sessionTarget? at target
  split at target
  next names names_eq =>
    obtain ⟨directory, isFirst, named⟩ := Option.bind_eq_some_iff.1 target
    unfold HostTarget.ofName? at named
    split at named
    next host channel unit others pieces =>
      cases named
      refine ⟨isHostName_append host, fun whole => notMem_host ?_⟩
      have isName := List.mem_of_find?_eq_some isFirst
      have nameWhole := HostTree.notMem_of_mem_names whole names_eq isName
      have isPiece : host ∈ Text.splitAt ':' (Text.without targetStart directory) := by
        rw [pieces]
        exact List.mem_cons_self
      exact notMem_piece nameWhole isPiece
    next => cases named
  next => cases target

theorem namesHost_of_targetsAmong {wanted : List String} {found : List HostTarget}
    {find : List String → Except StorageError (List HostTarget)}
    (finds : ∀ found, find wanted = .ok found → ∀ d ∈ found, t.NamesHost d.host)
    (seen : targetsAmong wanted find = .ok found) {d : HostTarget} (listed : d ∈ found) :
    t.NamesHost d.host := by
  unfold targetsAmong at seen
  split at seen
  · cases seen
    exact absurd listed List.not_mem_nil
  · exact finds found seen d listed

/-- Every target that is seen is behind a host that is named in the tree. -/
theorem namesHost_of_seenTargets {targets : List String} {seen : List HostTarget}
    (found : seenTargets paths t targets = .ok seen) {d : HostTarget} (listed : d ∈ seen) :
    t.NamesHost d.host := by
  obtain ⟨onFc, fcFound, onIscsi, iscsiFound, rfl⟩ := seenTargets_eq_ok_iff.1 found
  rcases List.mem_append.1 listed with fc | iscsi
  · exact namesHost_of_targetsAmong (fun _ seen _ => namesHost_of_fcTargets seen) fcFound fc
  · exact namesHost_of_targetsAmong (fun _ seen _ => namesHost_of_iscsiTargets seen) iscsiFound
      iscsi

theorem namesHost_of_mem_filter {directory host : String} {names : List String}
    (told : t.names directory = .ok names) (listed : host ∈ names.filter isHostName) :
    t.NamesHost host := by
  obtain ⟨isEntry, isHost⟩ := List.mem_filter.1 listed
  exact ⟨isHost, fun whole => HostTree.notMem_of_mem_names whole told isEntry⟩

/-- The orders of a rescan go to scan files of hosts. -/
theorem gives_of_rescanPlan {targets : List String} {lun : String} {plan : List Order}
    (planned : rescanPlan paths t targets lun = .ok plan) {o : Order} (listed : o ∈ plan) :
    Gives paths t.NamesHost (.rescan targets lun) o := by
  cases found : seenTargets paths t targets with
  | error e =>
    rw [rescanPlan_eq_error_iff.2 (Or.inl found)] at planned
    cases planned
  | ok seen =>
    by_cases unseen : seen = []
    · subst unseen
      rw [rescanPlan_of_unseen lun found] at planned
      split at planned
      next names told =>
        cases planned
        obtain ⟨host, isHost, rfl⟩ := List.mem_map.1 listed
        rw [hostScanOrder, HostTarget.scanOrder_eq]
        exact .scan targets lun (namesHost_of_mem_filter told isHost) wildcard wildcard
      next => cases planned
    · rw [rescanPlan_of_seen lun found unseen] at planned
      cases planned
      obtain ⟨d, isSeen, rfl⟩ := List.mem_map.1 listed
      rw [HostTarget.scanOrder_eq]
      exact .scan targets lun (namesHost_of_seenTargets found isSeen) d.channel d.target

/-- The orders that initialise loops go to hosts of the class. -/
theorem gives_of_fcHosts {hosts : List String} (told : fcHosts paths t = .ok hosts) {host : String}
    (listed : host ∈ hosts) : Gives paths t.NamesHost .initialiseLoops (loopOrder paths host) := by
  simp only [fcHosts, bind_eq_ok_iff] at told
  obtain ⟨entries, told, result⟩ := told
  cases result
  obtain ⟨isEntry, isHost⟩ := List.mem_filter.1 listed
  exact .initialise ⟨isHost, fun whole => notMem_of_mem_entries whole told isEntry⟩

theorem endsWithDevice_of_deviceName {path device : String} (named : deviceName path = .ok device) :
    EndsWithDevice path device := by
  dsimp only [deviceName] at named
  split at named
  · cases named
  next notEmpty =>
    cases named
    exact ⟨rfl, by simpa using notEmpty, (Path.afterSlash_eq_iff.1 rfl).1⟩

/-- Every order that a request gives is one that it may give. -/
theorem gives_of_mem_orders {r : Request} {o : Order} (listed : o ∈ r.orders paths t) :
    Gives paths t.NamesHost r o := by
  cases r with
  | rescan targets lun =>
    dsimp only [Request.orders] at listed
    split at listed
    next plan planned => exact gives_of_rescanPlan planned listed
    next => exact absurd listed List.not_mem_nil
  | initialiseLoops =>
    dsimp only [Request.orders] at listed
    split at listed
    next hosts told =>
      obtain ⟨host, isHost, rfl⟩ := List.mem_map.1 listed
      exact gives_of_fcHosts told isHost
    next => exact absurd listed List.not_mem_nil
  | removeDisk path =>
    dsimp only [Request.orders] at listed
    split at listed
    next order planned =>
      rw [List.mem_singleton.1 listed]
      simp only [removalOrder, bind_eq_ok_iff] at planned
      obtain ⟨device, named, state, _, planned⟩ := planned
      split at planned
      · cases planned
      · cases planned
        exact .delete (endsWithDevice_of_deviceName named)
    next => exact absurd listed List.not_mem_nil
  | rescanDisk path =>
    dsimp only [Request.orders] at listed
    split at listed
    next order planned =>
      rw [List.mem_singleton.1 listed]
      simp only [resizeOrder, bind_eq_ok_iff] at planned
      obtain ⟨device, named, planned⟩ := planned
      cases planned
      exact .rescan (endsWithDevice_of_deviceName named)
    next => exact absurd listed List.not_mem_nil
  | _ => exact absurd listed List.not_mem_nil

/-! ## What requests do to files -/

/-- An order that has to succeed changes the files as one that need not. -/
theorem require_snd (o : Order) (t : HostTree) : (o.require t).2 = (o.carryOut t).2 := by
  unfold Order.require Order.carryOut
  split <;> rfl

variable (runner : Runner) (start : Invocation → Except IoFailure ProcessRun)

/-- A request leaves the files as a sweep of its orders does. -/
theorem perform_tree (h : Host) (r : Request) :
    (h.perform runner start r).tree = (sweep h.tree (r.orders h.paths h.tree)).2 := by
  cases r with
  | rescan targets lun =>
    dsimp only [Host.perform, Host.write, rescan, Request.orders]
    cases rescanPlan h.paths h.tree targets lun <;> rfl
  | initialiseLoops =>
    dsimp only [Host.perform, Host.write, initialiseLoops, Request.orders]
    cases fcHosts h.paths h.tree <;> rfl
  | removeDisk path =>
    dsimp only [Host.perform, Host.write, removeDisk, Request.orders]
    cases removalOrder h.paths h.tree path with
    | error e => rfl
    | ok o => exact require_snd o h.tree
  | rescanDisk path =>
    dsimp only [Host.perform, Host.write, rescanDisk, Request.orders]
    cases resizeOrder h.paths path with
    | error e => rfl
    | ok o => exact require_snd o h.tree
  | _ => rfl

/-- What a run of requests led to: the orders in turn, their tries, and the files then. -/
structure OrderLog where
  orders : List Order
  tries : List Try
  tree : HostTree

/-- The orders, the tries and the files after some requests, each of which finds the files as the
one before it has left them. -/
def Host.log (h : Host) : List Request → OrderLog
  | [] => ⟨[], [], h.tree⟩
  | r :: rest =>
    let orders := r.orders h.paths h.tree
    let later := Host.log { h with tree := (h.perform runner start r).tree } rest
    ⟨orders ++ later.orders, (sweep h.tree orders).1 ++ later.tries, later.tree⟩

/-- A run carries its orders out one after the other, as one plan. -/
theorem carried_log (h : Host) (requests : List Request) :
    let log := h.log runner start requests
    Carried h.tree log.orders log.tries log.tree := by
  induction requests generalizing h with
  | nil => exact Carried.nil h.tree
  | cons r rest ih =>
    have first := carried_sweep h.tree (r.orders h.paths h.tree)
    have later := ih { h with tree := (h.perform runner start r).tree }
    dsimp only at later
    rw [perform_tree] at later
    dsimp only [Host.log]
    rw [perform_tree]
    exact first.append later

theorem Gives.mono {isHost isHost' : String → Prop} (more : ∀ host, isHost host → isHost' host)
    {r : Request} {o : Order} (gives : Gives paths isHost r o) : Gives paths isHost' r o := by
  cases gives with
  | scan targets lun named channel target =>
    exact .scan targets lun (more _ named) channel target
  | initialise named => exact .initialise (more _ named)
  | delete ends => exact .delete ends
  | rescan ends => exact .rescan ends

/-- Every order of a run is one that one of its requests may give. -/
theorem gives_of_mem_log {h : Host} {requests : List Request} {o : Order}
    (listed : o ∈ (h.log runner start requests).orders) :
    ∃ r ∈ requests, Gives h.paths h.tree.NamesHost r o := by
  induction requests generalizing h with
  | nil => exact absurd listed List.not_mem_nil
  | cons r rest ih =>
    rcases List.mem_append.1 listed with now | later
    · exact ⟨r, List.mem_cons_self, gives_of_mem_orders now⟩
    · obtain ⟨r', isLater, gives⟩ := ih later
      have alike := (carried_sweep h.tree (r.orders h.paths h.tree)).alike
      rw [← perform_tree runner start] at alike
      exact ⟨r', List.mem_cons_of_mem r isLater, gives.mono fun _ named => alike.namesHost named⟩

/-- Over any run of requests nothing in a tree is made or removed, and nothing but a file changes.
A file keeps its content in front and grows by the value of each order that succeeds there; it grows
only where an order leads, and every order is to a scan file, to the file that initialises a loop,
or to one of the two files of a disk. -/
theorem orders_only_grow_files (h : Host) (requests : List Request) :
    let log := h.log runner start requests
    Carried h.tree log.orders log.tries log.tree ∧
    (∀ o ∈ log.orders, ∃ r ∈ requests, Gives h.paths h.tree.NamesHost r o) ∧
    (∀ place, log.tree.node? place = none ↔ h.tree.node? place = none) ∧
    (∀ place n, (∀ content, n ≠ .file content) →
      (log.tree.node? place = some n ↔ h.tree.node? place = some n)) ∧
    (∀ place content, h.tree.node? place = some (.file content) → log.tree.node? place =
      some (.file (content ++ log.orders.flatMap (·.octetsAt h.tree place)))) ∧
    ∀ place, log.tree.node? place ≠ h.tree.node? place →
      ∃ o ∈ log.orders, h.tree.resolve true o.file = .ok place := by
  intro log
  have carried : Carried h.tree log.orders log.tries log.tree := carried_log runner start h requests
  have alike := carried.alike
  refine ⟨carried, fun o listed => gives_of_mem_log runner start listed, ?_, ?_, ?_, ?_⟩
  · intro place
    exact ⟨alike.symm.eq_none, alike.eq_none⟩
  · intro place n noFile
    exact ⟨fun there => alike.symm.eq_some there noFile, fun there => alike.eq_some there noFile⟩
  · intro place content there
    rw [carried.node?_eq place, there]
    rfl
  · intro place changed
    by_contra nowhere
    apply changed
    apply carried.untouched
    intro o listed leads
    exact nowhere ⟨o, listed, HostTree.resolve_of_writablePlace leads⟩

end HostStorage
