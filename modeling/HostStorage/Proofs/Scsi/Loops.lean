import HostStorage.Proofs.Host.Plain
import HostStorage.Proofs.Host.Walk
import HostStorage.Proofs.Scsi.Sweep
import HostStorage.Scsi.FibreChannel

/-!
# Which loops are initialised

The sweep of the Fibre Channel hosts is made before its result: every host is tried, and the result
is then read off the tries. It is the last failure among them (`IsLastFailure`), whatever succeeded
after it, so that only a sweep without failures succeeds.
-/
namespace HostStorage

/-- A file whose try failed, with the cause, while no try after it did. -/
def IsLastFailure (tries : List Try) (file : String) (cause : IoFailure) : Prop :=
  ∃ before after, tries = before ++ ⟨file, some cause⟩ :: after ∧ ∀ a ∈ after, a.failure = none

variable {tries : List Try}

theorem lastFailure?_eq_some_iff {e : StorageError} :
    lastFailure? tries = some e ↔
      ∃ file cause, IsLastFailure tries file cause ∧ e = .unwritable file cause := by
  rw [lastFailure?, List.getLast?_filterMap, List.findSome?_eq_some_iff]
  constructor
  · rintro ⟨later, ⟨file, failure⟩, earlier, reversed, failed, succeeded⟩
    obtain ⟨cause, rfl, rfl⟩ := Option.map_eq_some_iff.1 failed
    have whole := List.reverse_eq_iff.1 reversed
    refine ⟨file, cause, ⟨earlier.reverse, later.reverse, by simp [whole], fun a listed => ?_⟩, rfl⟩
    exact Option.map_eq_none_iff.1 (succeeded a (List.mem_reverse.1 listed))
  · rintro ⟨file, cause, ⟨before, after, rfl, succeeded⟩, rfl⟩
    refine ⟨after.reverse, ⟨file, some cause⟩, before.reverse, by simp, rfl, fun a listed => ?_⟩
    exact Option.map_eq_none_iff.2 (succeeded a (List.mem_reverse.1 listed))

theorem lastFailure?_eq_none_iff : lastFailure? tries = none ↔ ∀ a ∈ tries, a.failure = none := by
  rw [lastFailure?, List.getLast?_eq_none_iff, List.filterMap_eq_nil_iff]
  simp only [Option.map_eq_none_iff]

/-- A sweep fails with its last failure. -/
theorem sweepResult_eq_error_iff {e : StorageError} :
    sweepResult tries = .error e ↔
      ∃ file cause, IsLastFailure tries file cause ∧ e = .unwritable file cause := by
  rw [← lastFailure?_eq_some_iff, sweepResult]
  cases lastFailure? tries <;> simp

/-- A sweep succeeds if no try fails. -/
theorem sweepResult_eq_ok_iff : sweepResult tries = .ok () ↔ ∀ a ∈ tries, a.failure = none := by
  rw [← lastFailure?_eq_none_iff, sweepResult]
  cases lastFailure? tries <;> simp

theorem isMissing_iff (f : IoFailure) : f.isMissing = true ↔ f = .os .noEntry := beq_iff_eq

/-! ## The hosts -/

variable {paths : SysPaths} {t : HostTree}

/-- A machine without the class has no hosts. -/
theorem fcHosts_of_missing (missing : t.names paths.fcHosts = .error (.os .noEntry)) :
    fcHosts paths t = .ok [] := by
  rw [fcHosts, classEntries?, missing]
  rfl

theorem fcHosts_of_error {f : IoFailure} (failed : t.names paths.fcHosts = .error f)
    (other : f ≠ .os .noEntry) : fcHosts paths t = .error (.unreadable paths.fcHosts f) := by
  have notMissing : ¬ f.isMissing = true := fun missing => other ((isMissing_iff f).1 missing)
  simp only [fcHosts, classEntries?, failed, if_neg notMissing]
  rfl

/-- The hosts are the entries that are named so. -/
theorem fcHosts_of_lists {names : List String} (listed : t.Lists paths.fcHosts names) :
    fcHosts paths t = .ok (names.filter isHostName) := by
  have told := (t.names_eq_ok_iff paths.fcHosts names).2 listed
  simp only [fcHosts, classEntries?, told]
  rfl

/-- The loops of all hosts are tried, and the result tells of the tries. -/
theorem initialiseLoops_of_hosts {hosts : List String} (found : fcHosts paths t = .ok hosts) :
    let done := initialiseLoops paths t
    Carried t (hosts.map (loopOrder paths)) done.1 done.2.2 ∧ done.2.1 = sweepResult done.1 := by
  simp only [initialiseLoops, found]
  exact ⟨carried_sweep t _, trivial⟩

/-- The loop of every Fibre Channel host is tried once, in the order of their names, whatever fails;
entries with another name are not tried. The result is a failure exactly if some try failed, and
tells the file and the cause of the last one that did. Without the class nothing is tried and all is
well; a class that cannot be listed is an error, and nothing is tried either. -/
theorem every_loop_is_tried (paths : SysPaths) (t : HostTree) :
    let tries := (initialiseLoops paths t).1
    let result := (initialiseLoops paths t).2.1
    let after := (initialiseLoops paths t).2.2
    (t.names paths.fcHosts = .error (.os .noEntry) →
      tries = [] ∧ result = .ok () ∧ after = t) ∧
    (∀ f, t.names paths.fcHosts = .error f → f ≠ .os .noEntry →
      tries = [] ∧ result = .error (.unreadable paths.fcHosts f) ∧ after = t) ∧
    ∀ names, t.Lists paths.fcHosts names →
      let order (host : String) : Order :=
        ⟨Path.below (Path.below paths.fcHosts host) "issue_lip", "1"⟩
      Carried t ((names.filter (Text.startsWith · "host")).map order) tries after ∧
      (result = .ok () ↔ ∀ a ∈ tries, a.failure = none) ∧
      ∀ e, result = .error e ↔
        ∃ file cause, IsLastFailure tries file cause ∧ e = .unwritable file cause := by
  intro tries result after
  refine ⟨?_, ?_, ?_⟩
  · intro missing
    have nothing : initialiseLoops paths t = ([], .ok (), t) := by
      simp only [initialiseLoops, fcHosts_of_missing missing]
      rfl
    simp [tries, result, after, nothing]
  · intro f failed other
    have unlisted : initialiseLoops paths t = ([], .error (.unreadable paths.fcHosts f), t) := by
      simp only [initialiseLoops, fcHosts_of_error failed other]
    simp [tries, result, after, unlisted]
  · intro names listed order
    obtain ⟨carried, told⟩ := initialiseLoops_of_hosts (fcHosts_of_lists listed)
    refine ⟨carried, ?_, ?_⟩
    · rw [← sweepResult_eq_ok_iff]
      exact iff_of_eq (congrArg (· = .ok ()) told)
    · intro e
      rw [← sweepResult_eq_error_iff]
      exact iff_of_eq (congrArg (· = .error e) told)

/-- Of three hosts the first has no file to write, the second is no directory, and the third is
initialised; another entry is left alone. The failure of the second is told. -/
theorem last_of_two_failures_told :
    let lip : HostTree := .entry "issue_lip".toList (.file []) .empty .empty
    let others : HostTree := .entry "host2".toList .directory lip
      (.entry "power".toList .directory lip .empty)
    let hosts : HostTree := .entry "host0".toList .directory .empty
      (.entry "host1".toList (.file []) .empty others)
    let t : HostTree := .entry ['f'] .directory hosts .empty
    let done := initialiseLoops { fcHosts := "/f" } t
    Carried t [⟨"/f/host0/issue_lip", "1"⟩, ⟨"/f/host1/issue_lip", "1"⟩,
      ⟨"/f/host2/issue_lip", "1"⟩] done.1 done.2.2 ∧
    done.1 = [⟨"/f/host0/issue_lip", some (.os .noEntry)⟩,
      ⟨"/f/host1/issue_lip", some (.os .notDirectory)⟩, ⟨"/f/host2/issue_lip", none⟩] ∧
    done.2.1 = .error (.unwritable "/f/host1/issue_lip" (.os .notDirectory)) := by
  intro lip others hosts t done
  have plain : t.Plain [['f']] := ⟨by decide, by decide, .directory, rfl, by simp⟩
  have listed : t.Lists "/f" ["host0", "host1", "host2", "power"] :=
    ⟨[['f']], plain.resolve_eq "/f" rfl (by decide) true, rfl, .refl _, by decide⟩
  obtain ⟨carried, -, failed⟩ := (every_loop_is_tried { fcHosts := "/f" } t).2.2 _ listed
  have orders : (["host0", "host1", "host2", "power"].filter (Text.startsWith · "host")).map
      (fun host => (⟨Path.below (Path.below "/f" host) "issue_lip", "1"⟩ : Order)) =
      [⟨"/f/host0/issue_lip", "1"⟩, ⟨"/f/host1/issue_lip", "1"⟩,
        ⟨"/f/host2/issue_lip", "1"⟩] := by
    decide +kernel
  rw [orders] at carried
  have missing : t.writablePlace "/f/host0/issue_lip" = .error (.os .noEntry) := by
    have host0 : t.Plain [['f'], "host0".toList] :=
      ⟨by decide, by decide, .directory, rfl, by simp⟩
    have unresolved := host0.resolve_absent rfl "/f/host0/issue_lip" rfl (by decide) (by decide)
      rfl true
    simp only [HostTree.writablePlace, unresolved]
    rfl
  have noDirectory : t.writablePlace "/f/host1/issue_lip" = .error (.os .notDirectory) := by
    have directory : t.node? ([] ++ [['f']]) = some .directory := rfl
    have host1 : t.node? ([] ++ [['f']] ++ ["host1".toList]) = some (.file []) := rfl
    have isPath : HostTree.IsPath "/f/host1/issue_lip" := ⟨by decide, by decide, by decide⟩
    have way : hops "/f/host1/issue_lip" =
        [.stay, .down ['f'], .down "host1".toList, .down "issue_lip".toList] := by decide
    simp only [HostTree.writablePlace, isPath.resolve_eq, way, HostTree.walk, HostTree.node?_nil,
      directory, host1, HostTree.isTooLong]
    rfl
  have writable : t.writablePlace "/f/host2/issue_lip" =
      .ok [['f'], "host2".toList, "issue_lip".toList] := by
    have file : t.Plain [['f'], "host2".toList, "issue_lip".toList] :=
      ⟨by decide, by decide, .file [], rfl, by simp⟩
    exact file.writablePlace_eq _ rfl (by decide) rfl
  have tries : done.1 = [⟨"/f/host0/issue_lip", some (.os .noEntry)⟩,
      ⟨"/f/host1/issue_lip", some (.os .notDirectory)⟩, ⟨"/f/host2/issue_lip", none⟩] := by
    rw [carried.tries_eq]
    simp only [List.map_cons, List.map_nil, Order.tried, missing, noDirectory, writable]
  have last : IsLastFailure done.1 "/f/host1/issue_lip" (.os .notDirectory) :=
    ⟨[_], [_], tries, by simp⟩
  exact ⟨carried, tries, (failed _).2 ⟨_, _, last, rfl⟩⟩

end HostStorage
