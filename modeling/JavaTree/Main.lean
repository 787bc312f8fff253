import JavaTree.Program

/-!
# The command line

The program as it is called: what it needs of the disk is read into a value first, then it runs as a
pure function, and then its output and its log are written.

## Main definitions

* `readTree` — files and folders of the computer as a value.
* `readDisk` — the parts of the disk that arguments speak of.
* `main` — the program.
-/

namespace JavaTree

/-- The file or folder at a place, if there is one. -/
partial def readTree (place : String) : IO (Option FileTree) := do
  try
    let path ← IO.FS.realPath place
    if ← path.isDir then
      let entries ← path.readDir
      let trees ← entries.toList.filterMapM fun e => do
        return (← readTree e.path.toString).map fun t => (e.fileName, t)
      return some (.folder trees)
    else
      return some (.file (← IO.FS.readBinFile place))
  catch _ => return none

/-- The places that arguments speak of. -/
def mentionedPlaces (arguments : List String) : List Path :=
  match Request.parse arguments with
  | .ok r => r.path :: r.properties.toList
  | .error _ => []

/-- A disk with what is found at a place. -/
def readPlace (d : Disk) (p : Path) : IO Disk := do
  match ← readTree p.text with
  | some t =>
    let real ← IO.FS.realPath p.text
    return d.write (Path.ofString real.toString) t
  | none => return d

/-- A disk with a place, without what it holds, unless the disk knows the place. -/
def readOutline (d : Disk) (p : Path) : IO Disk := do
  if (d.entry? p).isSome then return d
  else
    try
      let real ← IO.FS.realPath p.text
      let t : FileTree := if ← real.isDir then .folder [] else .file ByteArray.empty
      return d.write (Path.ofString real.toString) t
    catch _ => return d

/-- A path and all folders that it is in, the outermost first. -/
def waypoints (p : Path) : List Path :=
  (List.range (p.parts.length + 1)).map fun n => ⟨p.anchor, p.parts.take n⟩

/-- The parts of the disk that arguments speak of, seen from the folder one is in, and the way to
the log. -/
def readDisk (env : Environment) (arguments : List String) : IO Disk := do
  let here := Path.ofString (← IO.currentDir).toString
  let empty : Disk := ⟨.folder [], here.parts⟩
  let bare := empty.write here (.folder [])
  let d ← (environmentFile :: mentionedPlaces arguments).foldlM readPlace bare
  (waypoints (logFolder (readEnvironment d env).1)).foldlM readOutline d

/-- The variables of the environment that the program looks at. -/
def readVariables : IO Environment := do
  [folderVariable, levelVariable].filterMapM fun name => do
    return (← IO.getEnv name).map fun value => (name, value)

/-- Adds lines to a log. -/
def writeLog (path : Path) (lines : List String) : IO Unit := do
  IO.FS.createDirAll path.parent.text
  let log ← IO.FS.Handle.mk path.text .append
  for line in lines do
    log.putStrLn line

/-- Carries out what a start of the program comes to.  The clock is not read, so that every log has
the same name. -/
def finish : Outcome → IO UInt32
  | .noFolder e => do
    IO.eprintln e.message
    return 1
  | .noLevel name folder _ => do
    writeLog (folder.child (logName {})) []
    IO.eprintln (unknownLevelMessage name)
    return 1
  | .ran setup run _ => do
    writeLog setup.log (run.records.map (·.full))
    for r in run.records.filter setup.threshold.shows do
      IO.eprintln r.brief
    IO.print run.output
    return run.status.toUInt32

end JavaTree

/-- The program. -/
def main (arguments : List String) : IO UInt32 := do
  let env ← JavaTree.readVariables
  let disk ← JavaTree.readDisk env arguments
  let (outcome, remarks) := JavaTree.start disk env JavaTree.extractor arguments
  for remark in remarks do
    IO.eprintln remark
  JavaTree.finish outcome
