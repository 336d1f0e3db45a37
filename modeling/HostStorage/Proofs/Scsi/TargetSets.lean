import HostStorage.Proofs.Scsi.Rescan

/-!
# Targets as a set

A rescan looks at its targets only to ask which iSCSI names and which ports are among them. Their
order, their repetitions, the case of the letters of a port and targets of any other kind make no
difference to what is tried and to what is left (`rescan_eq_of_sameTargets`).
-/
namespace HostStorage

/-- The second list has every iSCSI name of the first, and every port in the letters of some case
behind its start. -/
structure Covers (first second : List String) : Prop where
  names : ∀ rest, "iqn." ++ rest ∈ first → "iqn." ++ rest ∈ second
  ports : ∀ digits, "0x50" ++ digits ∈ first →
    ∃ others, "0x50" ++ others ∈ second ∧ Text.SameLetters digits others

def SameTargets (first second : List String) : Prop := Covers first second ∧ Covers second first

/-! ## Names and ports of a list -/

/-- The start of a port keeps its letters, and those behind it come down as if it were not there. -/
theorem lowercase_port (digits : String) :
    Text.lowercase ("0x50" ++ digits).toList = "0x50".toList ++ Text.lowercase digits.toList := by
  rw [String.toList_append, Text.lowercase, Text.lowerAfter_append (by simp)]
  -- The last figure of the start is what hides the rest of it.
  exact congrArg ("0x50".toList ++ ·)
    (Text.lowerAfter_hidden (c := '0') (by decide +kernel) (by decide +kernel) [] _ _)

theorem sameLetters_port_iff {digits others : String} :
    Text.SameLetters ("0x50" ++ digits) ("0x50" ++ others) ↔ Text.SameLetters digits others := by
  unfold Text.SameLetters Text.lowercased
  rw [String.ofList_inj, String.ofList_inj, lowercase_port, lowercase_port,
    List.append_cancel_left_eq]

theorem mem_filter_isIscsiName_iff {targets : List String} {name : String} :
    name ∈ targets.filter isIscsiName ↔ name ∈ targets ∧ ∃ rest, name = "iqn." ++ rest := by
  rw [List.mem_filter, isIscsiName, Text.startsWith_iff]

theorem mem_filter_isPortName_iff {targets : List String} {name : String} :
    name ∈ targets.filter isPortName ↔ name ∈ targets ∧ ∃ digits, name = "0x50" ++ digits := by
  rw [List.mem_filter, isPortName, Text.startsWith_iff]

theorem covers_iff {first second : List String} :
    Covers first second ↔
      (∀ name ∈ first.filter isIscsiName, name ∈ second.filter isIscsiName) ∧
        ∀ port ∈ first.filter isPortName,
          ∃ other ∈ second.filter isPortName, Text.SameLetters port other := by
  simp only [mem_filter_isIscsiName_iff, mem_filter_isPortName_iff]
  constructor
  · intro covers
    constructor
    · intro name listed
      obtain ⟨listed, rest, rfl⟩ := listed
      exact ⟨covers.names rest listed, rest, rfl⟩
    · intro port listed
      obtain ⟨listed, digits, rfl⟩ := listed
      obtain ⟨others, alsoListed, same⟩ := covers.ports digits listed
      exact ⟨"0x50" ++ others, ⟨alsoListed, others, rfl⟩, sameLetters_port_iff.2 same⟩
  · intro covers
    constructor
    · intro rest listed
      exact (covers.1 _ ⟨listed, rest, rfl⟩).1
    · intro digits listed
      obtain ⟨_, ⟨alsoListed, others, rfl⟩, same⟩ := covers.2 _ ⟨listed, digits, rfl⟩
      exact ⟨others, alsoListed, sameLetters_port_iff.1 same⟩

instance (first second : List String) : Decidable (Covers first second) :=
  decidable_of_iff' _ covers_iff

instance (first second : List String) : Decidable (SameTargets first second) :=
  inferInstanceAs (Decidable (_ ∧ _))

/-- What is told by a port of the first list is told by one of the second. -/
theorem Covers.exists_port {first second : List String} (covers : Covers first second)
    {told : String} (listed : ∃ port ∈ first.filter isPortName, Text.SameLetters told port) :
    ∃ port ∈ second.filter isPortName, Text.SameLetters told port := by
  obtain ⟨port, isPort, same⟩ := listed
  obtain ⟨other, alsoPort, alsoSame⟩ := (covers_iff.1 covers).2 port isPort
  exact ⟨other, alsoPort, same.trans alsoSame⟩

theorem Covers.noPorts {first second : List String} (covers : Covers first second)
    (nothing : second.filter isPortName = []) : first.filter isPortName = [] := by
  refine List.eq_nil_iff_forall_not_mem.2 fun port listed => ?_
  obtain ⟨other, alsoListed, -⟩ := covers.exists_port ⟨port, listed, rfl⟩
  rw [nothing] at alsoListed
  cases alsoListed

/-! ## What is found for lists that ask for the same -/

variable {paths : SysPaths} {t : HostTree}

/-- Ports are found by what they tell, whatever list asks for it. -/
theorem fcTargets_congr {ports others : List String}
    (same : ∀ told, (∃ port ∈ ports, Text.SameLetters told port) ↔
      ∃ port ∈ others, Text.SameLetters told port) :
    fcTargets paths t ports = fcTargets paths t others := by
  have wanted : isWantedPort paths t (ports.map Text.lowercased) =
      isWantedPort paths t (others.map Text.lowercased) := by
    funext name
    rw [Bool.eq_iff_iff, isWantedPort_iff, isWantedPort_iff]
    simp only [mem_map_lowercased_iff, same]
  simp only [fcTargets_eq, portTargets, portHosts, wanted]

theorem iscsiTargets_congr {names others : List String}
    (same : ∀ name, name ∈ names ↔ name ∈ others) :
    iscsiTargets paths t names = iscsiTargets paths t others := by
  have wanted : isWantedSession paths t names = isWantedSession paths t others := by
    funext session
    rw [Bool.eq_iff_iff, isWantedSession_iff, isWantedSession_iff]
    simp only [same]
  simp only [iscsiTargets_eq, sessionTargets, wanted]

theorem targetsAmong_congr {wanted others : List String}
    {find : List String → Except StorageError (List HostTarget)}
    (emptyTogether : wanted = [] ↔ others = []) (found : find wanted = find others) :
    targetsAmong wanted find = targetsAmong others find := by
  unfold targetsAmong
  have empty : wanted.isEmpty = others.isEmpty := by
    rw [Bool.eq_iff_iff, List.isEmpty_iff, List.isEmpty_iff, emptyTogether]
  rw [empty, found]

/-- Lists with the same targets see the same. -/
theorem seenTargets_congr {first second : List String} (same : SameTargets first second) :
    seenTargets paths t first = seenTargets paths t second := by
  obtain ⟨there, back⟩ := same
  have ports : ∀ told, (∃ port ∈ first.filter isPortName, Text.SameLetters told port) ↔
      ∃ port ∈ second.filter isPortName, Text.SameLetters told port :=
    fun told => ⟨there.exists_port, back.exists_port⟩
  have names : ∀ name, name ∈ first.filter isIscsiName ↔ name ∈ second.filter isIscsiName :=
    fun name => ⟨(covers_iff.1 there).1 name, (covers_iff.1 back).1 name⟩
  have noPorts : first.filter isPortName = [] ↔ second.filter isPortName = [] :=
    ⟨back.noPorts, there.noPorts⟩
  have noNames : first.filter isIscsiName = [] ↔ second.filter isIscsiName = [] := by
    simp only [List.eq_nil_iff_forall_not_mem, names]
  unfold seenTargets
  rw [targetsAmong_congr noPorts (fcTargets_congr ports),
    targetsAmong_congr noNames (iscsiTargets_congr names)]

/-- Lists with the same targets are rescanned for alike: the result, the files that are written one
after the other with the outcome of each, and the tree that is left are the same. -/
theorem rescan_eq_of_sameTargets {first second : List String} (same : SameTargets first second)
    (paths : SysPaths) (t : HostTree) (lun : String) :
    rescan paths t first lun = rescan paths t second lun := by
  unfold rescan rescanPlan
  rw [seenTargets_congr same]

/-- A port asked for three times, in letters of either case and among targets of other kinds, is
rescanned for as if asked for once: its host is told to look for the unit once. -/
theorem rescan_of_repeated_port :
    let host : HostTree :=
      .entry "host0".toList .directory (.entry "scan".toList (.file []) .empty .empty) .empty
    let port : HostTree :=
      .entry "port_name".toList (.file (Utf8.bytes "0x5006ab\n")) .empty .empty
    let t : HostTree := .entry ['h'] .directory host
      (.entry ['p'] .directory (.entry "rport-0:0-1".toList .directory port .empty) .empty)
    let paths : SysPaths := { scsiHosts := "/h", fcRemotePorts := "/p", iscsiSessions := "/s" }
    let once := ["0x5006AB", "iqn.x"]
    let thrice := ["eui.1", "0x5006ab", "iqn.x", "0x5006aB", "iqn.x", "0X5006AB", "0x5006AB"]
    SameTargets once thrice ∧ rescan paths t once "10" = rescan paths t thrice "10" ∧
      (rescan paths t thrice "10").1 = .ok [⟨"/h/host0/scan", none⟩] ∧
      Carried t [⟨"/h/host0/scan", "- - 16"⟩] [⟨"/h/host0/scan", none⟩]
        (rescan paths t thrice "10").2 := by
  intro host port t paths once thrice
  have same : SameTargets once thrice := by decide +kernel
  have alike := rescan_eq_of_sameTargets same paths t "10"
  refine ⟨same, alike, ?_⟩
  rw [← alike]
  have ports : t.Plain [['p']] := ⟨by decide, by decide, .directory, rfl, by simp⟩
  have portName : t.Plain [['p'], "rport-0:0-1".toList, "port_name".toList] :=
    ⟨by decide, by decide, .file (Utf8.bytes "0x5006ab\n"), rfl, by simp⟩
  have scan : t.Plain [['h'], "host0".toList, "scan".toList] :=
    ⟨by decide, by decide, .file [], rfl, by simp⟩
  have entries : t.names "/p" = .ok ["rport-0:0-1"] :=
    (t.names_eq_ok_iff "/p" _).2
      ⟨[['p']], ports.resolve_eq "/p" rfl (by decide) true, rfl, .refl _, by decide⟩
  have told : t.contentText "/p/rport-0:0-1/port_name" = .ok "0x5006ab\n" :=
    portName.contentText_eq _ rfl (by decide) rfl (by decide +kernel)
  have onFc : fcTargets paths t ["0x5006AB"] = .ok [⟨"host0", "-", "-"⟩] :=
    fcTargets_of_singleton entries (by decide +kernel) (by decide +kernel) (by decide +kernel) told
      (by decide +kernel)
  have noSessions : t.names "/s" = .error (.os .noEntry) := by
    have root : t.Plain [] := ⟨by decide, by decide, .directory, rfl, by simp⟩
    simp only [HostTree.names, root.resolve_absent rfl "/s" rfl (by decide) (by decide) rfl]
    rfl
  have onIscsi : iscsiTargets paths t ["iqn.x"] = .ok [] := by
    rw [iscsiTargets_eq]
    exact (searchesClass_map t "/s" rfl).missing noSessions
  have seen : seenTargets paths t once = .ok [⟨"host0", "-", "-"⟩] :=
    seenTargets_eq_ok_iff.2 ⟨_, onFc, _, onIscsi, rfl⟩
  obtain ⟨tries, tried, carried⟩ :=
    carried_rescan (rescanPlan_of_seen "10" seen (List.cons_ne_nil _ _))
  have order : ([⟨"host0", "-", "-"⟩] : List HostTarget).map
      (·.scanOrder paths (Lun.normalized "10")) = [⟨"/h/host0/scan", "- - 16"⟩] := by
    decide +kernel
  have written : tries = [⟨"/h/host0/scan", none⟩] := by
    have writable := scan.writablePlace_eq "/h/host0/scan" rfl (by decide) rfl
    rw [carried.tries_eq, order]
    simp only [List.map_cons, List.map_nil, Order.tried, writable]
  rw [order, written] at carried
  exact ⟨written ▸ tried, carried⟩

end HostStorage
