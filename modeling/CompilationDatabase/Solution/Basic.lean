import CompilationDatabase.Project.Basic
import CompilationDatabase.Solution.Line
import CompilationDatabase.Text.Word

/-!
# Solutions

A solution is a text file that lists projects. All projects of a solution are found before the first
one is loaded (`Solution.read`). They are loaded in the order in which they are listed
(`Solution.load`), from one table of macros, in which the name of the project is set before each.
-/

namespace CompilationDatabase

/-- A project that a solution lists. -/
structure ListedProject where
  /-- The name that the solution gives the project. -/
  name : Text
  /-- The path of the project file: absolute, and as short as can be. -/
  path : Path
deriving DecidableEq, Repr

/-- What changes while the projects of a solution are loaded. -/
structure Session (m : Matching) where
  macros : NameTable m
  notices : List Notice

namespace Solution

/-- The lines of a solution file. -/
def lines (files : FileTree) (path : Text) : Except Fault (List Text) :=
  match files.read path with
  | .error e => .error (.ofFile .unreadableSolution path e)
  | .ok octets =>
    match Text.Utf8.decodeMarked octets with
    | .error e => .error (.failed (.undecodableSolution e) (some path))
    | .ok text => .ok (Text.lines text)

/-- The path of a project that a solution lists. -/
def projectPath (solution : Path) (l : SolutionLine) : Path :=
  (solution.parent.join (.ofText (Path.native l.path))).normalized

/-- The project that a line of a solution lists, if it lists one. -/
def project? (files : FileTree) (solution : Path) (line : Text) :
    Loading (Option ListedProject) := do
  let location := some solution.text
  match SolutionLine.ofLine? line with
  | none => return none
  | some l =>
    match l.kind with
    | .folder =>
      Loading.tell (.skippedFolder l.name)
      return none
    | .unsupported => throw (.failed (.unsupportedProjectType l.guid) location)
    | .project =>
      let path := projectPath solution l
      match files.isFile path.text with
      | .ok true => return some ⟨l.name, path⟩
      | .ok false => throw (.failed (.missingProject path.text) location)
      | .error e => throw (.file e)

/-- The projects that a solution lists. -/
def read (files : FileTree) (path : Path) : Loading (List ListedProject) := do
  let solution := files.absolute path
  match lines files solution.text with
  | .error fault => throw fault
  | .ok lines => lines.filterMapM (project? files solution)

variable {m : Matching}

/-- Does something that leaves the macros as they are. -/
def withNotices {α : Type} (f : Loading α) : EStateM Fault (Session m) α := do
  let s ← get
  match f.run s.notices with
  | .ok a notices =>
    set { s with notices }
    return a
  | .error fault notices =>
    set { s with notices }
    throw fault

/-- Loads a project that a solution lists, after its name is set. -/
def loadProject (files : FileTree) (p : ListedProject) : EStateM Fault (Session m) Project := do
  modify fun s => { s with macros := s.macros.insert Project.nameMacro p.name }
  let s ← get
  withNotices (Project.load files p.path s.macros)

/-- Loads the projects of a solution. -/
def load (files : FileTree) (path : Path) : EStateM Fault (Session m) (List Project) := do
  let projects ← withNotices (read files path)
  projects.mapM (loadProject files)

end Solution

end CompilationDatabase
