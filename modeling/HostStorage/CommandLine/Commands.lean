import HostStorage.CommandLine.Grammar
import HostStorage.CommandLine.Number
import HostStorage.Request
import HostStorage.SysPaths

/-!
# Commands

The commands of the program with their forms and the requests that they make, and the options in
front of the command: where the host's files are, how often the mount table is read, which host is
asked and how replies are written.
-/
namespace HostStorage.CommandLine

/-- A command and the request that its reading makes. -/
structure Command where
  name : String
  form : Form
  request : Reading → Request

def anyText : String → Bool := fun _ => true

def textOption (name : String) : OptionForm := { name }

def ofOneWord (name : String) (request : String → Request) : Command where
  name := name
  form := { words := [anyText] }
  request s := request (s.word 0)

def ofNoWord (name : String) (request : Request) : Command where
  name := name
  form := {}
  request _ := request

def rescanCommand : Command where
  name := "rescan"
  form := { options := [textOption "lun"], takesMore := true }
  request s := .rescan s.words (s.value "lun")

def portalCommand : Command where
  name := "iplun"
  form := { words := [anyText, fun w => (unitNumber? w).isSome] }
  request s := .portalDevices (s.word 0) ((unitNumber? (s.word 1)).getD 0)

def formatMountCommand : Command where
  name := "format-mount"
  form := {
    options := [textOption "fs-type",
      { name := "option", letter := some 'o', repeatable := true },
      { name := "no-discard", takesValue := false }]
    words := [anyText, anyText] }
  request s := .formatAndMount (s.has "no-discard") (s.word 0) (s.word 1) (s.value "fs-type")
    (s.values "option")

def resizeCommand : Command where
  name := "resize-fs"
  form := {
    options := ["device", "ppath", "mpath", "fs-type"].map textOption
    words := [anyText] }
  request s := .resizeFs (s.word 0) (s.value "device") (s.value "ppath") (s.value "mpath")
    (s.value "fs-type")

/-- The seconds after which the multipath tool is stopped, unless others are given. -/
def usualDeadline : Nat := 30

def multipathRun : Command where
  name := "multipath"
  form := {
    options := [{ name := "timeout", accepts := isWord64 }, textOption "chroot"]
    takesMore := true
    passesOn := true }
  request s := .multipath (.ofSeconds (word64 usualDeadline (s.value? "timeout")))
    (s.value? "chroot") s.words

def commands : List Command := [
  ofNoWord "mounts" .mounts, ofOneWord "dev-mounts" .deviceMounts, ofOneWord "wwn" .wwnDevice,
  portalCommand, rescanCommand, ofNoWord "lip" .initialiseLoops, ofNoWord "fc-wwns" .fcPortNames,
  ofOneWord "remove" .removeDisk, ofOneWord "sysblock" .volumeBlockDevices,
  ofOneWord "nvme-controller" .nvmeController, ofOneWord "mount-info" .volumeDevices,
  ofOneWord "disk-format" .diskFormat, formatMountCommand, ofOneWord "unmount" .unmount,
  resizeCommand, ofOneWord "resize-multipath" .resizeMultipath, multipathRun,
  ofOneWord "fs-info" .usage]

def command? (name : String) : Option Command := commands.find? (·.name == name)

def backends : List String := ["host", "mock"]

def globalForm : Form where
  options := [
    { name := "sys-root", accepts := fun v => !v.isEmpty },
    { name := "mountinfo-retries", accepts := isWord64 },
    { name := "backend", accepts := backends.contains },
    { name := "json", takesValue := false },
    { name := "log-level" }]

/-- Whether help can be asked for about some words: about nothing in particular, about help and
about one command. -/
def isHelpTopic : List String → Bool
  | [] => true
  | [word] => word == helpFlag.name || (command? word).isSome
  | _ => false

/-- Reads the options in front of the command; what is left are the command and its words. -/
def readGlobal (s : Reading) : List String → Except Refusal (Reading × String × List String)
  | [] => .error .misuse
  | word :: rest =>
    if s.waiting.isNone && (command? word).isSome && !s.optionsEnded then .ok (s, word, rest)
    else if s.waiting.isNone && word == helpFlag.name && !s.optionsEnded then
      .error (if isHelpTopic rest then .help else .misuse)
    else do readGlobal (← s.next globalForm word) rest

structure Plan where
  paths : SysPaths
  simulated : Bool
  json : Bool
  request : Request

/-- The variable that names the root of the host's files. -/
def rootVariable : String := "FSUTIL_SYS_ROOT"

/-- The root of the host's files: the option, or else the variable, which must not be empty. -/
def rootOf (s : Reading) (environment : String → Option String) :
    Except Refusal (Option String) :=
  match s.value? "sys-root", environment rootVariable with
  | some root, _ => .ok (some root)
  | none, some root => if root.isEmpty then .error .misuse else .ok (some root)
  | none, none => .ok none

def Plan.ofWords (environment : String → Option String) (words : List String) :
    Except Refusal Plan := do
  let (global, name, rest) ← readGlobal {} words
  match command? name with
  | none => .error .misuse
  | some command =>
    let reading ← Reading.ofWords command.form rest
    let root ← rootOf global environment
    let places := (root.map SysPaths.rooted).getD .standard
    let usual := places.mountTableRetries
    return {
      paths := { places with
        mountTableRetries := word64 usual (global.value? "mountinfo-retries") }
      simulated := global.value? "backend" == some "mock"
      json := global.has "json"
      request := command.request reading }

end HostStorage.CommandLine
