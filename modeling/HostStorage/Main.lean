import HostStorage.CommandLine.Answer
import HostStorage.Host.Making

/-!
# The program

Takes a picture of the files that requests look at, carries out the command line on it and adds to
the attribute files what was written. Starting tools is left to users of the library: here every
tool is refused as a function that is not implemented.
-/
namespace HostStorage.Program

open HostStorage.CommandLine

def placeOf (path : String) : Path.Place := (Path.Route.ofPath path.toList).walk []

/-- The picture with what stands at a path and, down to a depth, below it. Following a link takes a
level of depth, so links that lead back end as well. -/
def load (depth : Nat) (t : HostTree) (path : String) : IO HostTree := do
  match depth with
  | 0 => return t
  | depth + 1 =>
    try
      let real ← IO.FS.realPath path
      if real.toString != path then
        load depth (t.put (placeOf path) (.link real.toString)) real.toString
      else
        match (← real.metadata).type with
        | .dir =>
          let entries ← real.readDir
          entries.toList.foldlM (fun t entry => load depth t entry.path.toString)
            (t.put (placeOf path) .directory)
        | .file =>
          let content ← (IO.FS.readBinFile real).toBaseIO
          let octets := (content.toOption.map fun b => b.toList).getD []
          return t.put (placeOf path) (.file octets)
        | _ => return t.put (placeOf path) .device
    catch _ => return t

/-- The levels below a place that requests look at, links included. -/
def depth : Nat := 6

/-- The paths that requests look at by themselves. -/
def placesOf (p : SysPaths) : List String :=
  [p.mountTable, p.sysBlock, p.scsiHosts, p.fcHosts, p.fcRemotePorts, p.iscsiSessions, p.diskById,
    p.diskByPath]

def pathIn? : Request → Option String
  | .unmount path | .usage path => some path
  | _ => none

/-- The picture with a directory at a path, if something stands there. -/
def mark (t : HostTree) (path : String) : IO HostTree := do
  let real ← (IO.FS.realPath path).toBaseIO
  match real with
  | .error _ => return t
  | .ok real =>
    if (← real.pathExists) && (t.status true path).toOption.isNone then
      return t.put (placeOf path) .directory
    else return t

def picture (p : Plan) : IO HostTree := do
  if p.simulated then return .bare
  let t ← (placesOf p.paths).foldlM (load depth) .bare
  match pathIn? p.request with
  | some path => mark t path
  | none => return t

/-- Adds to the files of the machine what was added to those of the picture. -/
def writeBack (before after : HostTree) : IO Unit := do
  for (place, content) in after.files do
    let old := (before.files.lookup place).getD []
    if old.length < content.length then
      let file ← IO.FS.Handle.mk (HostTree.pathOf place) .append
      file.write ⟨(content.drop old.length).toArray⟩

def unsupported : IoFailure := .os ⟨38⟩

/-- Prints an answer and gives its exit code. -/
def report (a : Answer) : IO UInt32 := do
  IO.print a.output
  if let some line := a.errorLine? then IO.eprintln ("Error: " ++ line)
  return a.exitCode.toUInt32

def run (words : List String) : IO UInt32 := do
  let root ← IO.getEnv rootVariable
  match Plan.ofWords (fun name => if name = rootVariable then root else none) words with
  | .error refusal => report (.ofRefusal refusal)
  | .ok plan =>
    let tree ← picture plan
    let p := plan.perform tree (fun _ _ => .error unsupported) (fun _ => .error unsupported)
    writeBack tree p.tree
    report (.ofResult plan.json p.result)

end HostStorage.Program

def main (words : List String) : IO UInt32 := HostStorage.Program.run words
