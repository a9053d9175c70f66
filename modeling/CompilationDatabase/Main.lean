import CompilationDatabase.CommandLine.Survey

/-!
# The program

Gathers the files that a run asks for, runs, and carries out what the run writes.
-/

namespace CompilationDatabase.CommandLine

/-- A time of the machine in nanoseconds. -/
def nanoseconds (t : IO.FS.SystemTime) : Int := t.sec * 1000000000 + t.nsec.toNat

/-- What the machine has at a path, and its moments. A directory comes with the kinds of its entries.
    The machine does not tell when something was made: it counts as made when it was last changed. -/
def observe (path : Path) (content : Bool) : IO (Option (FileTree.Node × Moments)) := do
  let place := (← IO.currentDir) / path.text.toStr
  unless ← place.pathExists do return none
  let m ← place.metadata
  let moments : Moments :=
    { modified := nanoseconds m.modified, created := nanoseconds m.modified
      accessed := nanoseconds m.accessed }
  if ← place.isDir then
    let entries ← (← place.readDir).mapM fun e => do
      let isDirectory ← e.path.isDir
      return (e.fileName.toList, if isDirectory then .directory [] else .file { content := [] })
    return some (.directory entries.toList, moments)
  else
    let octets ← if content then IO.FS.readBinFile place else pure .empty
    return some (.file { moments with content := octets.toList }, moments)

/-- A tree with what was observed where some names lead; what it holds already below a directory
    stays. -/
def addNode (files : FileTree) (names : List Text) (node : FileTree.Node) : FileTree :=
  match node, files.root.find? names with
  | .directory new, some (.directory old) =>
    let missing := new.filter fun e => (old.lookup e.1).isNone
    { files with root := files.root.put names (.directory (old ++ missing)) }
  | _, _ => { files with root := files.root.put names node }

/-- Adds what the machine has at a path and at the directories on the way. -/
def answer (files : FileTree) (q : Question) : IO FileTree := do
  let mut files := files
  let mut path : Path := { q.path with parts := [] }
  for part in q.path.parts do
    path := path.child part
    if let some (node, moments) ← observe path (q = .content path) then
      let names := path.normalized.parts
      files := addNode files names node
      files := { files with moments := fun n => if n = names then moments else files.moments n }
  return files

/-- Answers questions until no new ones come to light. -/
partial def gather (s : Settings) (environment : Option Text) (answered : List Question)
    (files : FileTree) : IO FileTree := do
  match (survey s environment files).filter (!answered.contains ·) with
  | [] => return files
  | questions => gather s environment (answered ++ questions) (← questions.foldlM answer files)

/-- Writes the files that differ from what they were. -/
def carryOut (before after : FileTree) : IO Unit := do
  for (names, file) in after.root.files do
    let unchanged := match before.root.find? names with
      | some (.file old) => old.content == file.content
      | _ => false
    unless unchanged do
      let path : Path := ⟨[Path.separator], names⟩
      IO.FS.createDirAll path.parent.text.toStr
      IO.FS.writeBinFile path.text.toStr ⟨file.content.toArray⟩

end CompilationDatabase.CommandLine

open CompilationDatabase CommandLine in
/-- Runs the program. -/
def main (arguments : List String) : IO UInt32 := do
  let arguments := arguments.map String.toList
  let environment := (← IO.getEnv Macros.environmentName.toStr).map String.toList
  let current := Path.ofText (← IO.currentDir).toString.toList
  let empty : FileTree := { root := .directory [], current := current.parts }
  let empty := { empty with root := empty.root.put current.parts (.directory []) }
  let files ← match parse arguments with
    | .ok settings => gather settings environment [] empty
    | .error _ => pure empty
  let (result, after) := run arguments environment files
  carryOut files after
  match result with
  | .ok report =>
    (← IO.getStdout).putStr report.output.toStr
    (← IO.getStderr).putStr report.log.toStr
    return report.status.toUInt32
  | .error fault =>
    (← IO.getStderr).putStr (fault.message.toStr ++ "\n")
    return 1
