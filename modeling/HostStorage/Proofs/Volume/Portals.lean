import HostStorage.Proofs.Host.Plain
import HostStorage.Proofs.Text.Numbers
import HostStorage.Proofs.Volume.Links

/-!
# Links to units behind a portal

A link's name tells one portal and one unit: the portal stands between the start of the name and the
first colon after it, the unit behind the last dash, in one of two writings that no two units share
(`NamesUnit.unique`). So the links to different units, or to units behind different portals, are
different links.
-/
namespace HostStorage

open HostStorage.Path (Name Place)

/-! ## Names -/

/-- What is written behind the last dash for a unit: its number, or the number of sixteen
hexadecimal digits that starts with it. -/
inductive WritesUnit (lun : Nat) : List Char → Prop
  | decimal : WritesUnit lun (toString lun).toList
  | hexadecimal :
    WritesUnit lun ("0x".toList ++ Text.hexPadded 4 lun ++ "000000000000".toList)

/-- A name of a unit behind a portal. -/
structure NamesUnit (ip : String) (lun : Nat) (name : String) : Prop where
  portal : ("ip-" ++ ip ++ ":").toList <+: name.toList
  unit : ∃ digits, WritesUnit lun digits ∧ "-lun-".toList ++ digits <:+ name.toList

theorem isPortalLink_iff {ip name : String} {lun : Nat} :
    isPortalLink ip lun name = true ↔ NamesUnit ip lun name := by
  have decimal : (decimalLunEnding lun).toList = "-lun-".toList ++ (toString lun).toList := by
    rw [decimalLunEnding, String.toList_append]
  have hexadecimal : (hexLunEnding lun).toList =
      "-lun-".toList ++ ("0x".toList ++ Text.hexPadded 4 lun ++ "000000000000".toList) := by
    simp [hexLunEnding]
  simp only [isPortalLink, Text.startsWith, Text.endsWith, Bool.and_eq_true, Bool.or_eq_true,
    List.isPrefixOf_iff_prefix, List.isSuffixOf_iff_suffix, decimal, hexadecimal]
  constructor
  · rintro ⟨portal, unit | unit⟩
    · exact ⟨portal, _, .decimal, unit⟩
    · exact ⟨portal, _, .hexadecimal, unit⟩
  · rintro ⟨portal, digits, written, unit⟩
    cases written with
    | decimal => exact ⟨portal, Or.inl unit⟩
    | hexadecimal => exact ⟨portal, Or.inr unit⟩

/-- The unit stands behind the last dash. -/
theorem WritesUnit.notMem {lun : Nat} {digits : List Char} (written : WritesUnit lun digits) :
    '-' ∉ digits := by
  intro dash
  cases written with
  | decimal => exact absurd (Text.isDigit_of_mem_toString dash) (by decide)
  | hexadecimal =>
    have fixed : '-' ∉ "0x".toList ∧ '-' ∉ "000000000000".toList := by decide
    simp only [List.mem_append, fixed.1, fixed.2, false_or, or_false] at dash
    exact absurd (Text.isSome_hexValue?_of_mem_hexPadded dash) (by decide)

/-- The two writings are not confused, since only one of them has a letter. -/
theorem WritesUnit.unique {m n : Nat} {digits : List Char} (first : WritesUnit m digits)
    (second : WritesUnit n digits) : m = n := by
  have noLetter : ∀ k : Nat, 'x' ∉ (toString k).toList := by
    intro k letter
    exact absurd (Text.isDigit_of_mem_toString letter) (by decide)
  -- The text is named first: as it is written out, no case of the second writing can be taken.
  cases first with
  | decimal =>
    generalize written : (toString m).toList = digits at second
    cases second with
    | decimal => exact Text.toString_inj (String.toList_inj.1 written)
    | hexadecimal => exact absurd (written ▸ by simp) (noLetter m)
  | hexadecimal =>
    generalize written : "0x".toList ++ Text.hexPadded 4 m ++ "000000000000".toList = digits
      at second
    cases second with
    | decimal => exact absurd (written ▸ by simp) (noLetter n)
    | hexadecimal =>
      rw [List.append_cancel_right_eq, List.append_cancel_left_eq] at written
      exact Text.hexPadded_inj written

/-- The portal of a name is what stands before the first colon. -/
theorem NamesUnit.portal_eq {ip name : String} {lun : Nat} (names : NamesUnit ip lun name)
    (noColon : ':' ∉ ip.toList) : (name.toList.drop 3).takeWhile (· != ':') = ip.toList := by
  obtain ⟨rest, whole⟩ := names.portal
  have parts : name.toList = "ip-".toList ++ (ip.toList ++ ':' :: rest) := by
    simp [← whole]
  rw [parts, List.drop_left' (by rfl), Text.takeWhile_append_cons noColon]

/-- The unit of a name is what stands behind the last dash. -/
theorem unit_eq {name : String} {lun : Nat} {digits : List Char} (written : WritesUnit lun digits)
    (unit : "-lun-".toList ++ digits <:+ name.toList) :
    name.toList.reverse.takeWhile (· != '-') = digits.reverse := by
  obtain ⟨before, whole⟩ := unit
  have parts : name.toList.reverse =
      digits.reverse ++ '-' :: ("-lun".toList.reverse ++ before.reverse) := by
    simp [← whole]
  rw [parts, Text.takeWhile_append_cons (by simpa using written.notMem)]

/-- A name is that of one unit behind one portal. -/
theorem NamesUnit.unique {ip other name : String} {m n : Nat} (first : NamesUnit ip m name)
    (second : NamesUnit other n name) (noColon : ':' ∉ ip.toList) (alsoNot : ':' ∉ other.toList) :
    ip = other ∧ m = n := by
  have portal := first.portal_eq noColon
  rw [second.portal_eq alsoNot] at portal
  obtain ⟨digits, written, unit⟩ := first.unit
  obtain ⟨others, alsoWritten, alsoUnit⟩ := second.unit
  have same := unit_eq written unit
  rw [unit_eq alsoWritten alsoUnit, List.reverse_inj] at same
  exact ⟨String.toList_inj.1 portal.symm, written.unique (same ▸ alsoWritten)⟩

/-! ## Links -/

section

variable {paths : SysPaths} {t : HostTree} {place : Place}

/-- The link at the path of an entry leads to the device that ends its target. -/
theorem leadsTo_below_iff (isAt : t.IsDirectoryAt paths.diskByPath place) {name device : String}
    (entry : HostTree.IsEntryName name) :
    LeadsTo t (Path.below paths.diskByPath name) device ↔
      HostTree.IsPath (Path.below paths.diskByPath name) ∧ ∃ target final,
        t.node? (place ++ [name.toList]) = some (.link target) ∧ Path.EndsWith target final ∧
          device = "/dev/" ++ final := by
  simp only [LeadsTo, isAt.status_below_eq_ok_iff entry]
  constructor
  · rintro ⟨target, final, ⟨isPath, stands⟩, ends, isDevice⟩
    exact ⟨isPath, target, final, stands, ends, isDevice⟩
  · rintro ⟨isPath, target, final, stands, ends, isDevice⟩
    exact ⟨target, final, ⟨isPath, stands⟩, ends, isDevice⟩

/-- A link with the device it leads to; what cannot be read is passed over. -/
def linkWithDevice? (t : HostTree) (link : String) : Option (String × String) :=
  match readDevice t link with
  | .ok device => device.map (link, ·)
  | .error _ => none

theorem linkWithDevice?_eq_some_iff {link key device : String} :
    linkWithDevice? t link = some (key, device) ↔ key = link ∧ LeadsTo t link device := by
  rw [linkWithDevice?, ← readDevice_eq_some_iff]
  cases readDevice t link with
  | error f => simp
  | ok found => cases found <;> simp [eq_comm]

theorem portalDevices_eq {names : List String} (told : t.names paths.diskByPath = .ok names)
    (ip : String) (lun : Nat) :
    portalDevices paths t ip lun = .ok ((names.filter (isPortalLink ip lun)).filterMap fun name =>
      linkWithDevice? t (Path.below paths.diskByPath name)) := by
  simp only [portalDevices, told, Except.mapError, bind, Except.bind, pure, Except.pure]
  congr 2
  funext name
  rw [linkWithDevice?, readDevice]
  cases t.linkTarget (Path.below paths.diskByPath name) with
  | error f =>
    dsimp only
    split
    next device absent =>
      split at absent
      next => cases absent; rfl
      next => cases absent
    next => rfl
  | ok target => rfl

/-- What is listed for a unit behind a portal in a directory of links. -/
theorem exists_portalDevices (isAt : t.IsDirectoryAt paths.diskByPath place) (ip : String)
    (lun : Nat) :
    ∃ devices, portalDevices paths t ip lun = .ok devices ∧ ∀ link device,
      (link, device) ∈ devices ↔ ∃ name target final, NamesUnit ip lun name ∧
        t.node? (place ++ [name.toList]) = some (.link target) ∧ Path.EndsWith target final ∧
        link = Path.below paths.diskByPath name ∧ HostTree.IsPath link ∧
        device = "/dev/" ++ final := by
  obtain ⟨names, told, listed_iff⟩ := isAt.exists_names
  refine ⟨_, portalDevices_eq told ip lun, fun link device => ?_⟩
  simp only [List.mem_filterMap, List.mem_filter, isPortalLink_iff, linkWithDevice?_eq_some_iff]
  constructor
  · rintro ⟨name, ⟨listed, namesUnit⟩, rfl, leads⟩
    have entry := isAt.properNames name ((listed_iff name).1 listed)
    obtain ⟨isPath, target, final, stands, ends, isDevice⟩ :=
      (leadsTo_below_iff isAt entry).1 leads
    exact ⟨name, target, final, namesUnit, stands, ends, rfl, isPath, isDevice⟩
  · rintro ⟨name, target, final, namesUnit, stands, ends, rfl, isPath, isDevice⟩
    have there : (t.node? (place ++ [name.toList])).isSome := by rw [stands]; rfl
    have leads := (leadsTo_below_iff isAt (isAt.properNames name there)).2
      ⟨isPath, target, final, stands, ends, isDevice⟩
    exact ⟨name, ⟨(listed_iff name).2 there, namesUnit⟩, rfl, leads⟩

/-- Each listed link is that of an entry whose name tells of the unit. -/
theorem exists_name_of_mem_keys (isAt : t.IsDirectoryAt paths.diskByPath place) {ip : String}
    {lun : Nat} {devices : List (String × String)}
    (found : portalDevices paths t ip lun = .ok devices) {link : String}
    (listed : link ∈ devices.map Prod.fst) :
    ∃ name, NamesUnit ip lun name ∧ Path.IsName name.toList ∧
      link = Path.below paths.diskByPath name := by
  obtain ⟨told, isTold, told_iff⟩ := exists_portalDevices isAt ip lun
  cases found.symm.trans isTold
  obtain ⟨⟨key, device⟩, isPair, rfl⟩ := List.mem_map.1 listed
  obtain ⟨name, target, final, namesUnit, stands, -, isBelow, -⟩ := (told_iff key device).1 isPair
  have entry := isAt.properNames name (by rw [stands]; rfl)
  exact ⟨name, namesUnit, entry.isName, isBelow⟩

end

/-- In a directory of links, what is found for a unit behind a portal is exactly its links that lead
to devices, each with its device: the links whose names tell of the portal and the unit, in one of
the two writings. Links to different units, or to units behind different portals, are different.
Every entry has a path, if the path of the directory leaves room for its name. -/
theorem portalDevices_separated (paths : SysPaths) (t : HostTree) (place : Place)
    (isAt : t.IsDirectoryAt paths.diskByPath place) :
    (∀ ip lun, ∃ devices, portalDevices paths t ip lun = .ok devices ∧ ∀ link device,
      (link, device) ∈ devices ↔ ∃ name target final, NamesUnit ip lun name ∧
        t.node? (place ++ [name.toList]) = some (.link target) ∧ Path.EndsWith target final ∧
        link = Path.below paths.diskByPath name ∧ HostTree.IsPath link ∧
        device = "/dev/" ++ final) ∧
    (∀ ip other m n first second, ':' ∉ ip.toList → ':' ∉ other.toList → (ip, m) ≠ (other, n) →
      portalDevices paths t ip m = .ok first → portalDevices paths t other n = .ok second →
      (first.map Prod.fst).Disjoint (second.map Prod.fst)) ∧
    ((Utf8.bytes paths.diskByPath).length + 1 + HostTree.maxName < HostTree.pathLimit →
      ∀ name : String, (t.node? (place ++ [name.toList])).isSome →
        HostTree.IsPath (Path.below paths.diskByPath name)) := by
  refine ⟨exists_portalDevices isAt, ?_, fun room name there => ?_⟩
  · intro ip other m n first second noColon alsoNot different found alsoFound link listed also
    obtain ⟨name, namesUnit, isName, rfl⟩ := exists_name_of_mem_keys isAt found listed
    obtain ⟨other', alsoNames, alsoName, same⟩ := exists_name_of_mem_keys isAt alsoFound also
    obtain rfl := HostTree.below_inj isName alsoName same
    obtain ⟨rfl, rfl⟩ := namesUnit.unique alsoNames noColon alsoNot
    exact different rfl
  · exact isAt.isPath_of_room room (isAt.properNames name there)

/-- Links to two units behind one portal, one of them in both writings. -/
def linksOfTwoUnits : HostTree :=
  .entry ['p'] .directory
    (.entry "ip-10.0.0.1:3260-lun-5".toList (.link "../../sdb") .empty
      (.entry "ip-10.0.0.1:3260-lun-0x0005000000000000".toList (.link "../../sdc") .empty
        (.entry "ip-10.0.0.1:3260-lun-15".toList (.link "../../sdd") .empty .empty)))
    .empty

theorem isDirectoryAt_linksOfTwoUnits : linksOfTwoUnits.IsDirectoryAt "/p" [['p']] := by
  have plain : linksOfTwoUnits.Plain [['p']] := ⟨by decide, by decide, .directory, rfl, by simp⟩
  exact .of_forall_mem (plain.resolve_eq "/p" rfl (by decide) true) rfl (by decide +kernel)

/-- Both links to unit 5 are found for it, and not for unit 15. -/
theorem portal_links_of_two_units :
    linksOfTwoUnits.IsDirectoryAt "/p" [['p']] ∧
    ∃ five fifteen, portalDevices { diskByPath := "/p" } linksOfTwoUnits "10.0.0.1" 5 = .ok five ∧
      portalDevices { diskByPath := "/p" } linksOfTwoUnits "10.0.0.1" 15 = .ok fifteen ∧
      ("/p/ip-10.0.0.1:3260-lun-5", "/dev/sdb") ∈ five ∧
      ("/p/ip-10.0.0.1:3260-lun-0x0005000000000000", "/dev/sdc") ∈ five ∧
      (five.map Prod.fst).Disjoint (fifteen.map Prod.fst) := by
  have isAt := isDirectoryAt_linksOfTwoUnits
  obtain ⟨found, apart, -⟩ :=
    portalDevices_separated { diskByPath := "/p" } linksOfTwoUnits [['p']] isAt
  obtain ⟨five, isFive, five_iff⟩ := found "10.0.0.1" 5
  obtain ⟨fifteen, isFifteen, -⟩ := found "10.0.0.1" 15
  refine ⟨isAt, five, fifteen, isFive, isFifteen, (five_iff _ _).2 ?_, (five_iff _ _).2 ?_, ?_⟩
  · exact ⟨"ip-10.0.0.1:3260-lun-5", "../../sdb", "sdb",
      isPortalLink_iff.1 (by decide +kernel), rfl,
      Path.lastName?_eq_some_iff.1 (by decide +kernel), by decide +kernel,
      ⟨by decide +kernel, by decide +kernel, by decide +kernel⟩, by decide +kernel⟩
  · exact ⟨"ip-10.0.0.1:3260-lun-0x0005000000000000", "../../sdc", "sdc",
      isPortalLink_iff.1 (by decide +kernel), rfl,
      Path.lastName?_eq_some_iff.1 (by decide +kernel), by decide +kernel,
      ⟨by decide +kernel, by decide +kernel, by decide +kernel⟩, by decide +kernel⟩
  · exact apart "10.0.0.1" "10.0.0.1" 5 15 five fifteen (by decide +kernel) (by decide +kernel)
      (by decide) isFive isFifteen

end HostStorage
