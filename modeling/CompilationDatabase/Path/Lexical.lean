import CompilationDatabase.Text.Basic

/-!
# Paths as they are written

What can be done to a path without looking at any file: two paths are joined, a path is normalised,
cut before its last component, or cut before the extension of that component. Components are
separated by slashes; a path that starts with one is absolute, and one that starts with exactly two
keeps both.
-/

namespace CompilationDatabase.Path

/-- The character between components. -/
def separator : Char := '/'

/-- A path written with either separator, in slashes. -/
def native (path : Text) : Text := path.replace '\\' separator

/-- A path that is taken from a directory. -/
def joinText (directory path : Text) : Text :=
  if path.head? = some separator then path
  else if directory.isEmpty || directory.getLast? = some separator then directory ++ path
  else directory ++ separator :: path

/-- The slashes at the start that are kept: two if there are exactly two, else one if there are
    any. -/
def rootText (path : Text) : Text :=
  match (path.takeWhile (· = separator)).length with
  | 0 => []
  | 2 => [separator, separator]
  | _ => [separator]

/-- Whether a component names something: it is neither empty nor a single dot. -/
def isStep (component : Text) : Bool := component ≠ [] ∧ component ≠ ['.']

/-- The components of a path that name something. -/
def steps (path : Text) : List Text := (path.pieces separator).filter isStep

/-- Goes one component on, from components in reverse order: two dots take the last one back, if
    there is one that can be taken back, and stay where there is nothing to go back to. -/
def advance (absolute : Bool) (back : List Text) (component : Text) : List Text :=
  if component ≠ ['.', '.'] then component :: back
  else match back with
    | [] => if absolute then [] else [component]
    | last :: rest => if last = ['.', '.'] then component :: back else rest

/-- The shortest way to write a path, if every component is a directory. -/
def normalizeText (path : Text) : Text :=
  let root := rootText path
  let normal := root ++ Text.join separator
    ((steps path).foldl (advance (!root.isEmpty)) []).reverse
  if normal.isEmpty then ['.'] else normal

/-- The last component: what follows the last slash. -/
def baseName (path : Text) : Text := (path.splitLast separator).2

/-- What comes before the last component, without slashes at its end, unless it has nothing
    else. -/
def dirName (path : Text) : Text :=
  let before := (path.splitLast separator).1
  if before.all (· = separator) then before else before.dropEndWhile (· = separator)

/-- A component before and from its last dot on. Dots at the start do not begin an extension. -/
def splitComponent (component : Text) : Text × Text :=
  let dots := component.takeWhile (· = '.')
  let rest := component.drop dots.length
  match Text.splitLast '.' rest with
  | ([], _) => (component, [])
  | (before, after) => (dots ++ before.dropLast, '.' :: after)

/-- A path before and from the extension of its last component on. -/
def splitExtension (path : Text) : Text × Text :=
  let (before, component) := path.splitLast separator
  let (stem, extension) := splitComponent component
  (before ++ stem, extension)

/-- A path with a slash at its end, unless it is empty. -/
def closed (path : Text) : Text :=
  if path.isEmpty || path.getLast? = some separator then path else path ++ [separator]

example : normalizeText "a/./b//../c".toList = "a/c".toList := by decide
example : normalizeText "//a/../..".toList = "//".toList := by decide
example : normalizeText "a/..".toList = ".".toList := by decide
example : splitExtension "d.d/..x.y".toList = ("d.d/..x".toList, ".y".toList) := by decide
example : splitExtension "d.d/...y".toList = ("d.d/...y".toList, []) := by decide

end CompilationDatabase.Path
