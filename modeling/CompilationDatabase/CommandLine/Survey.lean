import CompilationDatabase.CommandLine.Run

/-!
# Surveys — which paths a run asks for

A run is a function of a file tree, so the tree has to hold whatever the run asks for. `survey` tells
the paths that a run asks for as far as a tree shows: with each path that is added more may come to
light, from the target to the projects of a solution and from there to their items. Paths are
absolute; two dots stay.
-/

namespace CompilationDatabase.CommandLine

/-- Something that a run asks of the files. -/
inductive Question
  /-- What is at a path. -/
  | place (path : Path)
  /-- What is at a path, and what it holds if it is a file. -/
  | content (path : Path)
deriving DecidableEq, Repr

/-- The path that is asked for. -/
def Question.path : Question → Path
  | place path | content path => path

/-- The project files that a solution lists, whether they are there or not. -/
def listedPaths (files : FileTree) (solution : Path) : List Path :=
  match Solution.lines files solution.text with
  | .error _ => []
  | .ok lines =>
    let listed := (lines.filterMap SolutionLine.ofLine?).filter (·.kind = .project)
    listed.map (Solution.projectPath solution)

/-- The files of the items of a build, as far as it can be loaded. -/
def itemPaths {m : Matching} (files : FileTree) (path : Path) (macros : NameTable m) : List Path :=
  match (Build.load files path (.ok macros)).run [] with
  | .error _ _ => []
  | .ok b _ => b.projects.flatMap fun p => p.items.map fun i => .ofText i.fullPath

/-- The paths that a run asks for. -/
def survey (s : Settings) (environment : Option Text) (files : FileTree) : List Question :=
  match s.macros environment with
  | .error _ => []
  | .ok macros =>
    let path := s.start files
    .place (files.absolute path) :: match Target.resolve files path with
    | .error _ => []
    | .ok target =>
      let output := files.absolute (s.output?.getD target.parent)
      let projects := if Target.isSolution target then listedPaths files target else []
      .content target :: .place (output.child CompileCommand.fileName)
        :: projects.map .content ++ (itemPaths files path macros).map .place

end CompilationDatabase.CommandLine
