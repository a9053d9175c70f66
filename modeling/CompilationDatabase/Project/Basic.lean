import CompilationDatabase.Project.Builder

/-!
# Projects

A `Project` is what is known of a project file once it is loaded: its macros, whose values are left
as they were written, and its items, whose identities and properties are expanded.
-/

namespace CompilationDatabase

/-- A loaded project. -/
structure Project where
  name : Text
  /-- The absolute path of the project file. -/
  path : Path
  macros : NameTable .ignoringCase
  items : List Item
  store : PropertyStore

namespace Project

/-- The directory of the project file. -/
def directory (p : Project) : Path := p.path.parent

/-- The macros with all values expanded. -/
def resolvedMacros (p : Project) : Except Fault (NameTable .ignoringCase) :=
  p.macros.resolved (some p.path.text)

/-- The project as one line. -/
def shown (p : Project) : Text :=
  "ProjectModel(".toList ++ p.name.literal ++ ", ".toList ++ p.path.text.literal ++ [')']

/-- The project with the external include options of all items converted. -/
def convertExternalIncludes (p : Project) : Project :=
  let (items, store) := (p.items.mapM (·.convertExternalIncludes) : StateM _ _).run p.store
  { p with items, store }

/-- The macro that names the project. -/
def nameMacro : Text := "ProjectName".toList

end Project

namespace Builder

/-- The project as far as it is built. It is named by its macro, or else by its file. -/
def project (b : Builder) : Project where
  name := (b.macros.get? Project.nameMacro).getD b.path.stem
  path := b.path
  macros := b.macros
  items := b.items
  store := b.store

/-- Reads the project file, walks through it and expands its items. -/
def build (files : FileTree) : Building Project := do
  walkFile files
  resolveItems files
  return (← get).project

end Builder

/-- Something that is done while a build is loaded; notices are kept in any case. -/
abbrev Loading := EStateM Fault (List Notice)

namespace Loading

/-- Tells something. -/
def tell (n : Notice) : Loading Unit := modify (· ++ [n])

end Loading

/-- Loads a project file. -/
def Project.load {m : Matching} (files : FileTree) (path : Path) (macros : NameTable m) :
    Loading Project := do
  match (Builder.build files).run (Builder.start files path macros) with
  | .ok project b =>
    modify (· ++ b.notices)
    Loading.tell (.loadedProject project.path.text project.items.length)
    return project
  | .error fault b =>
    modify (· ++ b.notices)
    throw fault

end CompilationDatabase
