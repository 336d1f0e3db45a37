import HostStorage.Proofs.Host.Names
import HostStorage.Proofs.Host.Plain
import HostStorage.Proofs.Scsi.Sweep
import HostStorage.Proofs.Scsi.Targets
import HostStorage.Scsi.Rescan

/-!
# Which hosts are rescanned

The plan of a rescan is made before anything is written, so a rescan that fails has written nothing,
and one that succeeds has carried its plan out. The plan names the hosts of the targets that are
seen, or else every host.
-/
namespace HostStorage

/-- The order to a host names the channel, the target and the unit with a blank between them. -/
theorem HostTarget.scanOrder_eq (paths : SysPaths) (lun : String) (d : HostTarget) :
    d.scanOrder paths lun =
      ⟨scanFile paths d.host, d.channel ++ " " ++ d.target ++ " " ++ lun⟩ := by
  refine congrArg (Order.mk (scanFile paths d.host)) (String.toList_inj.1 ?_)
  simp [Text.joined, Text.join, List.intercalate]

variable {paths : SysPaths} {t : HostTree} {targets : List String} {lun : String}

theorem seenTargets_eq_ok_iff {seen : List HostTarget} :
    seenTargets paths t targets = .ok seen ↔
      ∃ onFc, targetsAmong (targets.filter isPortName) (fcTargets paths t) = .ok onFc ∧
        ∃ onIscsi, targetsAmong (targets.filter isIscsiName) (iscsiTargets paths t) = .ok onIscsi ∧
          onFc ++ onIscsi = seen := by
  simp only [seenTargets, bind_eq_ok_iff, pure, Except.pure, Except.ok.injEq]

theorem seenTargets_eq_error_iff {e : StorageError} :
    seenTargets paths t targets = .error e ↔
      targetsAmong (targets.filter isPortName) (fcTargets paths t) = .error e ∨
        ∃ onFc, targetsAmong (targets.filter isPortName) (fcTargets paths t) = .ok onFc ∧
          targetsAmong (targets.filter isIscsiName) (iscsiTargets paths t) = .error e := by
  simp [seenTargets, bind_eq_error_iff, pure, Except.pure]

/-- No target is seen if none is on Fibre Channel and none in an iSCSI session. -/
theorem seenTargets_eq_nil_iff :
    seenTargets paths t targets = .ok [] ↔
      targetsAmong (targets.filter isPortName) (fcTargets paths t) = .ok [] ∧
        targetsAmong (targets.filter isIscsiName) (iscsiTargets paths t) = .ok [] := by
  rw [seenTargets_eq_ok_iff]
  constructor
  · rintro ⟨onFc, fcFound, onIscsi, iscsiFound, unseen⟩
    obtain ⟨rfl, rfl⟩ := List.append_eq_nil_iff.1 unseen
    exact ⟨fcFound, iscsiFound⟩
  · rintro ⟨fcFound, iscsiFound⟩
    exact ⟨[], fcFound, [], iscsiFound, rfl⟩

/-- Targets that are seen make the plan. -/
theorem rescanPlan_of_seen (lun : String) {seen : List HostTarget}
    (found : seenTargets paths t targets = .ok seen) (notEmpty : seen ≠ []) :
    rescanPlan paths t targets lun = .ok (seen.map (·.scanOrder paths (Lun.normalized lun))) := by
  simp only [rescanPlan, found, bind, Except.bind]
  simp [notEmpty, pure, Except.pure]

/-- If no target is seen, the hosts that can be listed make the plan. -/
theorem rescanPlan_of_unseen (lun : String) (found : seenTargets paths t targets = .ok []) :
    rescanPlan paths t targets lun =
      match t.names paths.scsiHosts with
      | .ok names => .ok ((names.filter isHostName).map (hostScanOrder paths (Lun.normalized lun)))
      | .error f => .error (.unreadable paths.scsiHosts f) := by
  simp only [rescanPlan, found, bind, Except.bind]
  cases t.names paths.scsiHosts <;> rfl

/-- A rescan carries out its plan. -/
theorem carried_rescan {plan : List Order} (planned : rescanPlan paths t targets lun = .ok plan) :
    ∃ tries, (rescan paths t targets lun).1 = .ok tries ∧
      Carried t plan tries (rescan paths t targets lun).2 := by
  simp only [rescan, planned]
  exact ⟨_, rfl, carried_sweep t plan⟩

/-- A rescan without a plan fails and changes nothing. -/
theorem rescan_of_error {e : StorageError} (unplanned : rescanPlan paths t targets lun = .error e) :
    rescan paths t targets lun = (.error e, t) := by
  simp only [rescan, unplanned]

/-- A rescan fails exactly if it has no plan. -/
theorem rescan_eq_error_iff {e : StorageError} :
    (rescan paths t targets lun).1 = .error e ↔ rescanPlan paths t targets lun = .error e := by
  constructor
  · intro failed
    cases planned : rescanPlan paths t targets lun with
    | error failure =>
      rw [rescan_of_error planned] at failed
      cases failed
      rfl
    | ok plan =>
      obtain ⟨tries, succeeded, _⟩ := carried_rescan planned
      rw [succeeded] at failed
      cases failed
  · intro unplanned
    rw [rescan_of_error unplanned]

/-- A plan is missing if the targets cannot be found, or none is seen and the hosts cannot be
listed. -/
theorem rescanPlan_eq_error_iff {e : StorageError} :
    rescanPlan paths t targets lun = .error e ↔
      seenTargets paths t targets = .error e ∨ seenTargets paths t targets = .ok [] ∧
        ∃ f, t.names paths.scsiHosts = .error f ∧ e = .unreadable paths.scsiHosts f := by
  cases found : seenTargets paths t targets with
  | error failure => simp [rescanPlan, found, bind, Except.bind]
  | ok seen =>
    by_cases unseen : seen = []
    · subst unseen
      rw [rescanPlan_of_unseen lun found]
      cases t.names paths.scsiHosts <;> simp [eq_comm]
    · simp [rescanPlan_of_seen lun found unseen, unseen]

/-- A rescan looks for the unit of every target that is seen, on Fibre Channel first, or of all
targets of every host if none is. All of it is tried and reported whatever fails, and an error means
that the targets or the hosts could not be found and nothing was tried. -/
theorem rescan_tries_every_order (paths : SysPaths) (t : HostTree) (targets : List String)
    (lun : String) :
    let onFc := targetsAmong (targets.filter isPortName) (fcTargets paths t)
    let onIscsi := targetsAmong (targets.filter isIscsiName) (iscsiTargets paths t)
    let order (host channel target : String) : Order :=
      ⟨scanFile paths host, channel ++ " " ++ target ++ " " ++ Lun.normalized lun⟩
    let result := (rescan paths t targets lun).1
    let after := (rescan paths t targets lun).2
    (∀ fc iscsi, onFc = .ok fc → onIscsi = .ok iscsi → fc ++ iscsi ≠ [] →
      ∃ tries, result = .ok tries ∧
        Carried t ((fc ++ iscsi).map fun d => order d.host d.channel d.target) tries after) ∧
    (∀ names, onFc = .ok [] → onIscsi = .ok [] → t.Lists paths.scsiHosts names →
      ∃ tries, result = .ok tries ∧
        Carried t ((names.filter isHostName).map fun host => order host "-" "-") tries after) ∧
    (∀ e, result = .error e ↔
      onFc = .error e ∨ (∃ fc, onFc = .ok fc ∧ onIscsi = .error e) ∨
        onFc = .ok [] ∧ onIscsi = .ok [] ∧
          ∃ f, t.names paths.scsiHosts = .error f ∧ e = .unreadable paths.scsiHosts f) ∧
    ∀ e, result = .error e → after = t := by
  intro onFc onIscsi order result after
  refine ⟨?_, ?_, ?_, ?_⟩
  · intro fc iscsi fcFound iscsiFound notEmpty
    have planned := rescanPlan_of_seen lun
      (seenTargets_eq_ok_iff.2 ⟨fc, fcFound, iscsi, iscsiFound, rfl⟩) notEmpty
    simp only [HostTarget.scanOrder_eq] at planned
    exact carried_rescan planned
  · intro names fcFound iscsiFound listed
    have planned := rescanPlan_of_unseen lun
      (seenTargets_eq_nil_iff.2 ⟨fcFound, iscsiFound⟩)
    rw [(t.names_eq_ok_iff paths.scsiHosts names).2 listed] at planned
    have same : hostScanOrder paths (Lun.normalized lun) = fun host => order host "-" "-" :=
      funext fun host => HostTarget.scanOrder_eq paths _ ⟨host, wildcard, wildcard⟩
    rw [same] at planned
    exact carried_rescan planned
  · intro e
    rw [rescan_eq_error_iff, rescanPlan_eq_error_iff, seenTargets_eq_error_iff,
      seenTargets_eq_nil_iff, or_assoc, and_assoc]
  · intro e failed
    have unplanned := rescan_eq_error_iff.1 failed
    exact congrArg Prod.snd (rescan_of_error unplanned)

/-- Of two hosts the second has no scan file. It is the only one tried for a port that it sees, and
is tried after the first one if there is no target. -/
theorem rescan_with_scan_file_missing :
    let host1 : HostTree := .entry "host1".toList .directory .empty .empty
    let hosts : HostTree :=
      .entry "host0".toList .directory (.entry "scan".toList (.file []) .empty .empty) host1
    let port : HostTree :=
      .entry "port_name".toList (.file (Utf8.bytes "0x5006\n")) .empty .empty
    let t : HostTree := .entry ['h'] .directory hosts
      (.entry ['p'] .directory (.entry "rport-1:0-1".toList .directory port .empty) .empty)
    let paths : SysPaths := { scsiHosts := "/h", fcRemotePorts := "/p" }
    (∃ tries, (rescan paths t ["0x5006"] "10").1 = .ok tries ∧
      Carried t [⟨"/h/host1/scan", "- - 16"⟩] tries (rescan paths t ["0x5006"] "10").2) ∧
    ∃ tries, (rescan paths t [] "").1 = .ok tries ∧
      Carried t [⟨"/h/host0/scan", "- - -"⟩, ⟨"/h/host1/scan", "- - -"⟩] tries
        (rescan paths t [] "").2 := by
  intro host1 hosts port t paths
  constructor
  · have ports : t.Plain [['p']] := ⟨by decide, by decide, .directory, rfl, by simp⟩
    have portName : t.Plain [['p'], "rport-1:0-1".toList, "port_name".toList] :=
      ⟨by decide, by decide, .file (Utf8.bytes "0x5006\n"), rfl, by simp⟩
    have entries : t.names "/p" = .ok ["rport-1:0-1"] :=
      (t.names_eq_ok_iff "/p" _).2
        ⟨[['p']], ports.resolve_eq "/p" rfl (by decide) true, rfl, .refl _, by decide⟩
    have told : t.contentText "/p/rport-1:0-1/port_name" = .ok "0x5006\n" :=
      portName.contentText_eq _ rfl (by decide) rfl (by decide +kernel)
    have seen : fcTargets paths t ["0x5006"] = .ok [⟨"host1", "-", "-"⟩] :=
      fcTargets_of_singleton entries (by decide +kernel) (by decide +kernel) (by decide +kernel)
        told (by decide +kernel)
    have order :
        Order.mk (scanFile paths "host1") ("-" ++ " " ++ "-" ++ " " ++ Lun.normalized "10") =
          ⟨"/h/host1/scan", "- - 16"⟩ := by decide +kernel
    rw [← order]
    exact (rescan_tries_every_order paths t ["0x5006"] "10").1 [⟨"host1", "-", "-"⟩] [] seen rfl
      (by simp)
  · have plain : t.Plain [['h']] := ⟨by decide, by decide, .directory, rfl, by simp⟩
    have listed : t.Lists "/h" ["host0", "host1"] :=
      ⟨[['h']], plain.resolve_eq "/h" rfl (by decide) true, rfl, .refl _, by decide⟩
    have orders : (["host0", "host1"].filter isHostName).map (fun host =>
          (⟨scanFile paths host, "-" ++ " " ++ "-" ++ " " ++ Lun.normalized ""⟩ : Order)) =
        [⟨"/h/host0/scan", "- - -"⟩, ⟨"/h/host1/scan", "- - -"⟩] := by decide +kernel
    rw [← orders]
    exact (rescan_tries_every_order paths t [] "").2.1 ["host0", "host1"] rfl rfl listed

end HostStorage
