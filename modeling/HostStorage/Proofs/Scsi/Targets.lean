import HostStorage.Proofs.Distinct
import HostStorage.Proofs.Host.Entries
import HostStorage.Proofs.Result
import HostStorage.Proofs.Text.Lowercase
import HostStorage.Scsi.Targets

/-!
# Which targets are found

A host is found for a port exactly if it is named by a remote port that tells the name of the port,
and a target for an iSCSI name exactly if it is named by the first target directory of a session
that tells the name (`targets_found_iff_named`). What cannot be read is passed over, what is found
twice is told once, and only a class that exists and cannot be listed is a failure.
-/
namespace HostStorage

open HostTree (HasEntry FirstEntry)

/-! ## What is to be found -/

/-- A host is named by a remote port that tells one of the names, whatever the case of its
letters. Behind its start the name of a remote port has the number of the host, up to a colon. -/
def SeesPort (paths : SysPaths) (t : HostTree) (portNames : List String) (host : String) : Prop :=
  ∃ rest told, t.HasEntry paths.fcRemotePorts ("rport-" ++ rest) ∧
    t.contentText (Path.below (Path.below paths.fcRemotePorts ("rport-" ++ rest)) "port_name") =
      .ok told ∧
    (∃ port ∈ portNames, Text.SameLetters (Text.trimmed told) port) ∧
    host = "host" ++ String.ofList (rest.toList.takeWhile (· != ':'))

/-- The name of a target directory behind its start: the numbers of the host, the channel and the
target, and maybe more, with colons between them. -/
def NumbersTarget (numbers : String) (d : HostTarget) : Prop :=
  ∃ number others, d.host = "host" ++ number ∧
    numbers = Text.joined ":" (number :: d.channel :: d.target :: others) ∧
    ∀ piece ∈ number :: d.channel :: d.target :: others, ':' ∉ piece.toList

/-- A target is named by the first target directory of a session that tells one of the names. -/
def InSession (paths : SysPaths) (t : HostTree) (names : List String) (d : HostTarget) : Prop :=
  ∃ session told numbers, t.HasEntry paths.iscsiSessions session ∧
    "session".toList <+: session.toList ∧
    t.contentText (Path.below (Path.below paths.iscsiSessions session) "targetname") = .ok told ∧
    Text.trimmed told ∈ names ∧
    t.FirstEntry (Path.below (Path.below paths.iscsiSessions session) "device") "target"
      ("target" ++ numbers) ∧
    NumbersTarget numbers d

/-- A search of a class directory: it succeeds if the class can be listed, finds nothing if there is
no class, and fails otherwise. -/
structure SearchesClass (t : HostTree) (directory : String)
    (found : Except StorageError (List HostTarget)) : Prop where
  listed : ∀ names, t.names directory = .ok names → ∃ targets, found = .ok targets
  missing : t.names directory = .error (.os .noEntry) → found = .ok []
  unlisted : ∀ f, t.names directory = .error f → f ≠ .os .noEntry →
    found = .error (.unreadable directory f)

/-! ## Classes and attributes -/

variable {paths : SysPaths} {t : HostTree}

/-- The entries of a class are those of its directory; a class that does not exist has none. -/
theorem mem_classEntries_iff {directory name : String} {entries : Option (List String)}
    (told : classEntries? t directory = .ok entries) :
    name ∈ entries.getD [] ↔ t.HasEntry directory name := by
  unfold classEntries? at told
  split at told
  next names listed =>
    cases told
    exact HostTree.mem_names_iff listed
  next f unlisted =>
    split at told
    · cases told
      refine iff_of_false List.not_mem_nil fun isEntry => ?_
      obtain ⟨names, listed⟩ := isEntry.exists_names
      rw [unlisted] at listed
      cases listed
    · cases told

theorem searchesClass_map (t : HostTree) (directory : String)
    {select : List String → List HostTarget} (nothing : select [] = []) :
    SearchesClass t directory
      ((classEntries? t directory).map fun entries => select (entries.getD [])) := by
  unfold classEntries?
  constructor
  · intro names listed
    rw [listed]
    exact ⟨select names, rfl⟩
  · intro missing
    rw [missing]
    exact congrArg Except.ok nothing
  · intro f unlisted other
    have present : f.isMissing = false := beq_eq_false_iff_ne.2 other
    simp only [unlisted, present]
    rfl

/-- A property of an attribute is one of the trimmed text of a file that can be read. -/
theorem any_attribute?_iff {path : String} {p : String → Bool} :
    (attribute? t path).any p = true ↔
      ∃ told, t.contentText path = .ok told ∧ p (Text.trimmed told) = true := by
  unfold attribute?
  cases t.contentText path <;> simp

/-! ## Ports -/

/-- The host in the name of a remote port stands between its start and the first colon. -/
theorem remotePortHost_append (rest : String) :
    remotePortHost ("rport-" ++ rest) =
      "host" ++ String.ofList (rest.toList.takeWhile (· != ':')) := by
  have first : (Text.splitAt ':' rest).head? =
      some (String.ofList (rest.toList.takeWhile (· != ':'))) := by
    rw [Text.splitAt, List.head?_map, Text.head?_fields]
    rfl
  rw [remotePortHost, remotePortStart, Text.without_append, List.headD_eq_head?_getD, first]
  rfl

theorem mem_map_lowercased_iff {portNames : List String} {told : String} :
    Text.lowercased told ∈ portNames.map Text.lowercased ↔
      ∃ port ∈ portNames, Text.SameLetters told port := by
  simp only [List.mem_map, Text.SameLetters, eq_comm]

theorem isWantedPort_iff {wanted : List String} {name : String} :
    isWantedPort paths t wanted name = true ↔ (∃ rest, name = "rport-" ++ rest) ∧ ∃ told,
      t.contentText (Path.below (Path.below paths.fcRemotePorts name) "port_name") = .ok told ∧
        Text.lowercased (Text.trimmed told) ∈ wanted := by
  have asked : isWantedPort paths t wanted name = (Text.startsWith name "rport-" &&
      (attribute? t (Path.below (Path.below paths.fcRemotePorts name) "port_name")).any
        fun told => wanted.contains (Text.lowercased told)) := by
    unfold isWantedPort remotePortStart
    cases attribute? t (Path.below (Path.below paths.fcRemotePorts name) "port_name") <;> rfl
  rw [asked, Bool.and_eq_true, Text.startsWith_iff, any_attribute?_iff]
  simp only [List.contains_iff_mem]

/-- The hosts of the wanted ports among the entries of the class, each once. -/
def portHosts (paths : SysPaths) (t : HostTree) (wanted entries : List String) : List String :=
  ((entries.filter (isWantedPort paths t wanted)).map remotePortHost).eraseDups

/-- On each host every channel and every target. -/
def portTargets (paths : SysPaths) (t : HostTree) (wanted entries : List String) :
    List HostTarget :=
  (portHosts paths t wanted entries).map (HostTarget.mk · wildcard wildcard)

theorem fcTargets_eq (paths : SysPaths) (t : HostTree) (portNames : List String) :
    fcTargets paths t portNames = (classEntries? t paths.fcRemotePorts).map fun entries =>
      portTargets paths t (portNames.map Text.lowercased) (entries.getD []) := by
  unfold fcTargets
  cases classEntries? t paths.fcRemotePorts <;> rfl

theorem mem_portHosts_iff {portNames : List String} {entries : Option (List String)}
    (told : classEntries? t paths.fcRemotePorts = .ok entries) {host : String} :
    host ∈ portHosts paths t (portNames.map Text.lowercased) (entries.getD []) ↔
      SeesPort paths t portNames host := by
  rw [portHosts, List.mem_eraseDups, List.mem_map]
  simp only [List.mem_filter, mem_classEntries_iff told, isWantedPort_iff, mem_map_lowercased_iff]
  constructor
  · intro found
    obtain ⟨name, ⟨isEntry, ⟨rest, rfl⟩, shown, read, wanted⟩, rfl⟩ := found
    exact ⟨rest, shown, isEntry, read, wanted, remotePortHost_append rest⟩
  · intro sees
    obtain ⟨rest, shown, isEntry, read, wanted, rfl⟩ := sees
    exact ⟨"rport-" ++ rest, ⟨isEntry, ⟨rest, rfl⟩, shown, read, wanted⟩,
      remotePortHost_append rest⟩

/-- If the class has a single port and it tells one of the names, its host is all that is found. -/
theorem fcTargets_of_singleton {portNames : List String} {name host file told : String}
    (listed : t.names paths.fcRemotePorts = .ok [name])
    (isPort : Text.startsWith name "rport-" = true) (isHost : remotePortHost name = host)
    (isFile : Path.below (Path.below paths.fcRemotePorts name) "port_name" = file)
    (read : t.contentText file = .ok told)
    (tells : ∃ port ∈ portNames, Text.SameLetters (Text.trimmed told) port) :
    fcTargets paths t portNames = .ok [⟨host, "-", "-"⟩] := by
  have wanted : isWantedPort paths t (portNames.map Text.lowercased) name = true := by
    rw [isWantedPort_iff, isFile]
    exact ⟨Text.startsWith_iff.1 isPort, told, read, mem_map_lowercased_iff.2 tells⟩
  rw [fcTargets_eq, classEntries?, listed]
  simp [Except.map, portTargets, portHosts, wanted, isHost, wildcard, List.eraseDups_cons]

/-! ## Sessions -/

/-- A target is read off the name of its directory piece by piece. -/
theorem ofName?_append_eq_some_iff {numbers : String} {d : HostTarget} :
    HostTarget.ofName? ("target" ++ numbers) = some d ↔ NumbersTarget numbers d := by
  unfold HostTarget.ofName? NumbersTarget
  rw [targetStart, Text.without_append]
  constructor
  · intro named
    split at named
    next number channel target others pieces =>
      cases named
      obtain ⟨-, made, whole⟩ := Text.splitAt_eq_iff.1 pieces
      exact ⟨number, others, rfl, made, whole⟩
    next => cases named
  · intro numbered
    obtain ⟨number, others, isHost, made, whole⟩ := numbered
    have pieces : Text.splitAt ':' numbers = number :: d.channel :: d.target :: others :=
      Text.splitAt_eq_iff.2 ⟨by simp, made, whole⟩
    rw [pieces]
    change some (HostTarget.mk ("host" ++ number) d.channel d.target) = some d
    rw [← isHost]

/-- What follows the third number is left out, and two numbers are no target. -/
example : HostTarget.ofName? "target3:0:1:9" = some ⟨"host3", "0", "1"⟩ ∧
    HostTarget.ofName? "target3:0" = none := by
  decide +kernel

/-- The target of a session is named by its first target directory. -/
theorem sessionTarget?_eq_some_iff {session : String} {d : HostTarget} :
    sessionTarget? paths t session = some d ↔ ∃ numbers,
      t.FirstEntry (Path.below (Path.below paths.iscsiSessions session) "device") "target"
        ("target" ++ numbers) ∧ NumbersTarget numbers d := by
  unfold sessionTarget?
  split
  next entries listed =>
    rw [Option.bind_eq_some_iff, targetStart]
    simp only [HostTree.find?_names_eq_some_iff listed]
    constructor
    · intro found
      obtain ⟨name, isFirst, named⟩ := found
      obtain ⟨rest, rfl⟩ := Text.startsWith_iff.1 (List.isPrefixOf_iff_prefix.2 isFirst.starts)
      exact ⟨rest, isFirst, ofName?_append_eq_some_iff.1 named⟩
    · intro found
      obtain ⟨numbers, isFirst, numbered⟩ := found
      exact ⟨"target" ++ numbers, isFirst, ofName?_append_eq_some_iff.2 numbered⟩
  next f unlisted =>
    refine iff_of_false (by simp) fun found => ?_
    obtain ⟨numbers, isFirst, -⟩ := found
    obtain ⟨names, listed⟩ := isFirst.isEntry.exists_names
    rw [unlisted] at listed
    cases listed

theorem isWantedSession_iff {names : List String} {session : String} :
    isWantedSession paths t names session = true ↔ "session".toList <+: session.toList ∧ ∃ told,
      t.contentText (Path.below (Path.below paths.iscsiSessions session) "targetname") =
        .ok told ∧ Text.trimmed told ∈ names := by
  have asked : isWantedSession paths t names session = (Text.startsWith session "session" &&
      (attribute? t (Path.below (Path.below paths.iscsiSessions session) "targetname")).any
        names.contains) := by
    unfold isWantedSession
    cases attribute? t (Path.below (Path.below paths.iscsiSessions session) "targetname") <;> rfl
  rw [asked, Bool.and_eq_true, Text.startsWith, List.isPrefixOf_iff_prefix, any_attribute?_iff]
  simp only [List.contains_iff_mem]

/-- The targets of the wanted sessions among the entries of the class, each once. -/
def sessionTargets (paths : SysPaths) (t : HostTree) (names entries : List String) :
    List HostTarget :=
  ((entries.filter (isWantedSession paths t names)).filterMap (sessionTarget? paths t)).eraseDups

theorem iscsiTargets_eq (paths : SysPaths) (t : HostTree) (names : List String) :
    iscsiTargets paths t names = (classEntries? t paths.iscsiSessions).map fun entries =>
      sessionTargets paths t names (entries.getD []) := by
  unfold iscsiTargets
  cases classEntries? t paths.iscsiSessions <;> rfl

theorem mem_sessionTargets_iff {names : List String} {entries : Option (List String)}
    (told : classEntries? t paths.iscsiSessions = .ok entries) {d : HostTarget} :
    d ∈ sessionTargets paths t names (entries.getD []) ↔ InSession paths t names d := by
  rw [sessionTargets, List.mem_eraseDups, List.mem_filterMap]
  simp only [List.mem_filter, mem_classEntries_iff told, isWantedSession_iff,
    sessionTarget?_eq_some_iff]
  constructor
  · intro found
    obtain ⟨session, ⟨isEntry, starts, shown, read, wanted⟩, numbers, isFirst, numbered⟩ := found
    exact ⟨session, shown, numbers, isEntry, starts, read, wanted, isFirst, numbered⟩
  · intro inSession
    obtain ⟨session, shown, numbers, isEntry, starts, read, wanted, isFirst, numbered⟩ := inSession
    exact ⟨session, ⟨isEntry, starts, shown, read, wanted⟩, numbers, isFirst, numbered⟩

/-- What is found for ports and for iSCSI names is exactly what the remote ports and the sessions
name, each once; ports are found with every channel and target. A class that does not exist names
nothing, and only a class that exists and cannot be listed fails. -/
theorem targets_found_iff_named (paths : SysPaths) (t : HostTree) :
    (∀ portNames targets, fcTargets paths t portNames = .ok targets →
      (targets.map (·.host)).Nodup ∧ (∀ d ∈ targets, d.channel = "-" ∧ d.target = "-") ∧
      ∀ host, host ∈ targets.map (·.host) ↔ SeesPort paths t portNames host) ∧
    (∀ names targets, iscsiTargets paths t names = .ok targets →
      targets.Nodup ∧ ∀ d, d ∈ targets ↔ InSession paths t names d) ∧
    (∀ portNames, SearchesClass t paths.fcRemotePorts (fcTargets paths t portNames)) ∧
    ∀ names, SearchesClass t paths.iscsiSessions (iscsiTargets paths t names) := by
  refine ⟨?_, ?_, ?_, ?_⟩
  · intro portNames targets found
    rw [fcTargets_eq] at found
    cases told : classEntries? t paths.fcRemotePorts with
    | error e => rw [told] at found; cases found
    | ok entries =>
      rw [told] at found
      cases found
      have hosts : ∀ wanted found, (portTargets paths t wanted found).map (·.host) =
          portHosts paths t wanted found := by
        intro wanted found
        simp [portTargets, Function.comp_def]
      rw [hosts]
      refine ⟨nodup_eraseDups _, ?_, fun host => mem_portHosts_iff told⟩
      intro d listed
      obtain ⟨host, -, rfl⟩ := List.mem_map.1 listed
      exact ⟨rfl, rfl⟩
  · intro names targets found
    rw [iscsiTargets_eq] at found
    cases told : classEntries? t paths.iscsiSessions with
    | error e => rw [told] at found; cases found
    | ok entries =>
      rw [told] at found
      cases found
      exact ⟨nodup_eraseDups _, fun d => mem_sessionTargets_iff told⟩
  · intro portNames
    rw [fcTargets_eq]
    exact searchesClass_map t paths.fcRemotePorts rfl
  · intro names
    rw [iscsiTargets_eq]
    exact searchesClass_map t paths.iscsiSessions rfl

end HostStorage
