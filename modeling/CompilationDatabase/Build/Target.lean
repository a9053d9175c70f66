import CompilationDatabase.Fault
import CompilationDatabase.File.Tree
import CompilationDatabase.Text.Case.Lower

/-!
# Targets — which file a build is loaded from

A build is loaded from a solution or a project. If a directory is given, its one solution is taken,
or else its one project; other files do not count.
-/

namespace CompilationDatabase.Target

/-- The suffix of solutions. -/
def solutionSuffix : Text := ".sln".toList

/-- Whether a file name is that of a solution. -/
def isSolutionName (name : Text) : Bool := solutionSuffix.isSuffixOf name

/-- Whether a file name is that of a project: it ends with one character and `sproj` after a dot, or
    with `.vcxproj`. -/
def isProjectName (name : Text) : Bool :=
  ".vcxproj".toList.isSuffixOf name ||
    match "jorps".toList.isPrefixOf? name.reverse with
    | some (_ :: '.' :: _) => true
    | _ => false

/-- The one file of several that has a kind of name, if there is one; more than one is a fault. -/
def unique? (several : Cause) (location : Text) : List Text → Except Fault (Option Text)
  | [] => .ok none
  | [name] => .ok (some name)
  | _ => .error (.failed several (some location))

/-- The file in a directory that a build is loaded from. Faults are found at the given location. -/
def find (files : FileTree) (directory : Path) (location : Text) : Except Fault Path := do
  let names ← (files.fileNames directory.text).mapError .file
  match ← unique? .severalSolutions location (names.filter isSolutionName) with
  | some name => return directory.child name
  | none =>
    match ← unique? .severalProjects location (names.filter isProjectName) with
    | some name => return directory.child name
    | none => throw (.failed .noProjects (some location))

/-- The file that a path leads to, as an absolute path. -/
def resolve (files : FileTree) (path : Path) : Except Fault Path := do
  let isDirectory ← (files.isDirectory path.text).mapError .file
  let path ← if isDirectory then find files path path.text else pure path
  if ← (files.isFile path.text).mapError .file then return files.absolute path
  else throw (.failed .noTarget (some path.text))

/-- Whether a file is loaded as a solution: by its suffix, in any letter case. -/
def isSolution (path : Path) : Bool := path.suffix.lower == solutionSuffix

end CompilationDatabase.Target
