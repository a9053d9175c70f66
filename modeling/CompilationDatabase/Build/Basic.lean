import CompilationDatabase.Build.Target
import CompilationDatabase.Command.Basic
import CompilationDatabase.PropertyString
import CompilationDatabase.Solution.Basic

/-!
# Builds

A `Build` is everything that is loaded from one solution or project: the projects in their order,
and the macros that they were loaded with. Its compile commands are those of all items.

For people to read there is a listing: one line for each project, indented below it one for each macro
and each item, and further indented one for each property of an item.
-/

namespace CompilationDatabase

/-- What is loaded from one solution or project. -/
structure Build (m : Matching) where
  /-- The solution or project file. -/
  path : Path
  /-- The macros after loading. -/
  macros : NameTable m
  projects : List Project

namespace Build

variable {m : Matching}

/-- The directory of the solution or project. -/
def root (b : Build m) : Path := b.path.parent

/-- The compile commands of all items that are compiled. -/
def commands (b : Build m) : List CompileCommand :=
  b.projects.flatMap fun p => CompileCommand.ofItems b.root.text p.store p.items

/-- The macro that holds the directory of the solution. -/
def directoryMacro : Text := "SolutionDir".toList

/-- Loads the projects of a target. -/
def loadProjects (files : FileTree) (target : Path) (macros : NameTable m) :
    Loading (Build m) := do
  let notices ← get
  if Target.isSolution target then
    match (Solution.load files target).run ⟨macros, notices⟩ with
    | .ok projects s =>
      set s.notices
      return ⟨target, s.macros, projects⟩
    | .error fault s =>
      set s.notices
      throw fault
  else
    let macros := macros.insert Project.nameMacro target.stem
    let project ← Project.load files target macros
    return ⟨target, macros, [project]⟩

/-- Loads the build that a path leads to, from macros that are only asked for once the path is found
    to be right. -/
def load (files : FileTree) (path : Path) (macros : Except Fault (NameTable m)) :
    Loading (Build m) := do
  match Target.resolve files path with
  | .error fault => throw fault
  | .ok target =>
    match macros with
    | .error fault => throw fault
    | .ok macros =>
      let directory := target.parent.text ++ [Path.separator]
      let b ← loadProjects files target (macros.insert directoryMacro directory)
      return { b with projects := b.projects.map (·.convertExternalIncludes) }

end Build

/-! ## The listing -/

/-- A line with a name and a value. -/
def Entry.listed (indent : Nat) (e : Entry) : Text :=
  List.replicate indent ' ' ++ e.name ++ ": ".toList ++ e.value

/-- The lines of an item. -/
def Item.listing (store : PropertyStore) (i : Item) : List Text :=
  Entry.listed 4 ⟨i.type, i.fullPath⟩ :: (i.properties store).entries.map (Entry.listed 8)

/-- The lines of a project. -/
def Project.listing (p : Project) : List Text :=
  p.path.text :: p.macros.entries.map (Entry.listed 4) ++ p.items.flatMap (Item.listing p.store)

/-- The lines of a build. -/
def Build.listing {m : Matching} (b : Build m) : List Text := b.projects.flatMap (·.listing)

end CompilationDatabase
