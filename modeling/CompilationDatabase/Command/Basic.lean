import CompilationDatabase.Item.Basic
import CompilationDatabase.Text.Literal

/-!
# Compile commands — the entries of a compilation database

Every item that is compiled has one `CompileCommand`: the directory of the build, the file, and the
command that compiles it. The words of the command come from the properties of the item, in their
order; paths below the directory of the build are written relative to it.
-/

namespace CompilationDatabase

/-- An entry of a compilation database. -/
structure CompileCommand where
  directory : Text
  file : Text
  command : Text
deriving DecidableEq, Repr

namespace CompileCommand

/-- The item types that are compiled. -/
def compiledTypes : List Text := ["ClCompile".toList, "ClInclude".toList]

/-- The compiler that a command calls. -/
def compiler : Text := "clang".toList

/-- The language standards by the names that projects have for them. -/
def standards : List (Text × Text) :=
  [("stdcpp14".toList, "c++14".toList), ("stdcpp17".toList, "c++17".toList),
    ("stdcpp20".toList, "c++20".toList), ("stdcpplatest".toList, "c++20".toList)]

/-- The standard of a project whose own name for it is not known. -/
def defaultStandard : Text := "c++14".toList

/-- A path under a directory, relative to that directory; other paths stay. Slashes separate. -/
def relativePath (directory path : Text) : Text :=
  let base := directory.dropEndWhile (fun c => c = '\\' || c = '/') ++ [Path.separator]
  Path.native ((base.isPrefixOf? path).getD path)

/-- The elements of a property value that are not empty. -/
def elements (value : Text) : List Text :=
  (value.pieces Origin.listSeparator).filter (· ≠ [])

/-- The words that a property adds to a command. -/
def propertyWords (directory : Text) (property : Entry) : List Text :=
  let name := property.name.lower
  if name = "additionalincludedirectories".toList then
    (elements property.value).map fun path => '-' :: 'I' :: relativePath directory path
  else if name = "languagestandard".toList then
    ["-std=".toList ++ (standards.lookup property.value).getD defaultStandard]
  else if name = "preprocessordefinitions".toList then
    (elements property.value).map fun definition => '-' :: 'D' :: Path.native definition
  else if name = "treatwarningaserror".toList then
    if property.value.lower = "true".toList then ["-Werror".toList] else []
  else []

/-- The language that an item is compiled as. -/
def language (properties : PropertyTable) : Text :=
  if properties.get? "CompileAs".toList = some "CompileAsC".toList then "c".toList
  else "c++".toList

/-- The words of the command for a file with some properties. -/
def words (directory file : Text) (properties : PropertyTable) : List Text :=
  [compiler, "-c".toList, "-x".toList ++ language properties]
    ++ properties.entries.flatMap (propertyWords directory) ++ [file]

/-- The entry of an item of a build. -/
def ofItem (directory : Text) (store : PropertyStore) (item : Item) : CompileCommand :=
  let file := relativePath directory item.fullPath
  { directory := Path.native directory
    file
    command := Text.ShellWord.line (words directory file (item.properties store)) }

/-- The entries of the items that are compiled, in their order. -/
def ofItems (directory : Text) (store : PropertyStore) (items : List Item) : List CompileCommand :=
  (items.filter (compiledTypes.contains ·.type)).map (ofItem directory store)

end CompileCommand

/-- A line of a file that is indented. -/
def indented (depth : Nat) (line : Text) : Text := List.replicate (2 * depth) ' ' ++ line

namespace CompileCommand

/-- The lines of an entry in a database file. -/
def lines (c : CompileCommand) : List Text :=
  let field (name value : Text) : Text :=
    indented 2 (Text.Json.string name ++ ": ".toList ++ Text.Json.string value)
  [indented 1 ['{'], field "directory".toList c.directory ++ [','],
    field "file".toList c.file ++ [','], field "command".toList c.command, indented 1 ['}']]

/-- The database file with some entries. -/
def databaseText (commands : List CompileCommand) : Text :=
  if commands.isEmpty then "[]\n".toList
  else
    let blocks := commands.map fun c => Text.join '\n' c.lines
    "[\n".toList ++ List.intercalate ",\n".toList blocks ++ "\n]\n".toList

end CompileCommand

end CompilationDatabase
