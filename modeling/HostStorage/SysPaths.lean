import HostStorage.Json.Value
import HostStorage.Path.Join

/-!
# Places on the host

Where the library looks for the mount table, the block devices, the SCSI, Fibre Channel and iSCSI
classes and the links to disks, and which binaries it runs by path. A set of places can be moved
below another root, and is read from and written to JSON.
-/
namespace HostStorage

structure SysPaths where
  mountTable : String := "/proc/self/mountinfo"
  sysBlock : String := "/sys/block"
  scsiHosts : String := "/sys/class/scsi_host"
  fcHosts : String := "/sys/class/fc_host"
  fcRemotePorts : String := "/sys/class/fc_remote_ports"
  iscsiSessions : String := "/sys/class/iscsi_session"
  diskById : String := "/dev/disk/by-id"
  diskByPath : String := "/dev/disk/by-path"
  multipathBin : String := "/usr/sbin/multipath"
  chrootBin : String := "/usr/sbin/chroot"
  inquiryBin : String := "/noderoot/sbin/pp_inq"
  mountTableRetries : Nat := 30
  deriving DecidableEq, Repr

namespace SysPaths

def standard : SysPaths := {}

/-- The usual places below `root`; binaries stay where they are. -/
def rooted (root : String) : SysPaths :=
  let move := Path.rebased root
  { standard with
    mountTable := move standard.mountTable
    sysBlock := move standard.sysBlock
    scsiHosts := move standard.scsiHosts
    fcHosts := move standard.fcHosts
    fcRemotePorts := move standard.fcRemotePorts
    iscsiSessions := move standard.iscsiSessions
    diskById := move standard.diskById
    diskByPath := move standard.diskByPath }

def fieldNames : List String :=
  ["proc_mountinfo", "sys_block", "scsi_host", "fc_host", "fc_remote_ports", "iscsi_session",
    "dev_disk_by_id", "dev_disk_by_path", "multipath_bin", "chroot_bin", "pp_inq_bin",
    "mountinfo_retries"]

def toJson (p : SysPaths) : Json := .record (fieldNames.zip
  [.text p.mountTable, .text p.sysBlock, .text p.scsiHosts, .text p.fcHosts,
    .text p.fcRemotePorts, .text p.iscsiSessions, .text p.diskById, .text p.diskByPath,
    .text p.multipathBin, .text p.chrootBin, .text p.inquiryBin, .natural p.mountTableRetries])

/-- A field that is absent takes its usual value, one that is present must be readable. -/
def orUsual {α : Type} (usual : α) (read : Json → Option α) : Option Json → Option α
  | none => some usual
  | some v => read v

def ofJson? (j : Json) : Option SysPaths := do
  match ← j.fields? fieldNames with
  | [a, b, c, d, e, f, g, h, i, k, l, n] =>
    let u := standard
    return {
      mountTable := ← orUsual u.mountTable Json.text? a
      sysBlock := ← orUsual u.sysBlock Json.text? b
      scsiHosts := ← orUsual u.scsiHosts Json.text? c
      fcHosts := ← orUsual u.fcHosts Json.text? d
      fcRemotePorts := ← orUsual u.fcRemotePorts Json.text? e
      iscsiSessions := ← orUsual u.iscsiSessions Json.text? f
      diskById := ← orUsual u.diskById Json.text? g
      diskByPath := ← orUsual u.diskByPath Json.text? h
      multipathBin := ← orUsual u.multipathBin Json.text? i
      chrootBin := ← orUsual u.chrootBin Json.text? k
      inquiryBin := ← orUsual u.inquiryBin Json.text? l
      mountTableRetries := ← orUsual u.mountTableRetries Json.word? n }
  | _ => none

end SysPaths
end HostStorage
