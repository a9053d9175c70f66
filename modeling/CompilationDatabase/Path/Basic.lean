import CompilationDatabase.Path.Lexical

/-!
# Paths

A `Path` is a root, which is empty for a relative path, and the components below it. Reading one
from text drops empty components and single dots; two dots stay, since they may lead through a
directory that is not what its name says.
-/

namespace CompilationDatabase

/-- A path: its root, and the components below it. -/
structure Path where
  /-- No slash for a relative path, one for an absolute one, or two. -/
  root : Text
  parts : List Text
deriving DecidableEq, Repr

namespace Path

/-- The path that a text stands for. -/
def ofText (t : Text) : Path := ⟨rootText t, steps t⟩

/-- The path as text; the path without root and components is a dot. -/
def text (p : Path) : Text :=
  if p.root.isEmpty && p.parts.isEmpty then ['.']
  else p.root ++ Text.join separator p.parts

/-- Whether the path starts at the root of all files. -/
def isAbsolute (p : Path) : Bool := !p.root.isEmpty

/-- A path taken from a directory; an absolute one stays as it is. -/
def join (directory p : Path) : Path :=
  if p.isAbsolute then p else { directory with parts := directory.parts ++ p.parts }

/-- The path of a component in a directory. -/
def child (directory : Path) (name : Text) : Path :=
  { directory with parts := directory.parts ++ [name] }

/-- The directory of a path; a path without components is its own. -/
def parent (p : Path) : Path := { p with parts := p.parts.dropLast }

/-- The last component, or nothing. -/
def name (p : Path) : Text := p.parts.getLastD []

/-- The last component before and from its last dot on. A dot at either end does not count. -/
def splitName (p : Path) : Text × Text :=
  match p.name.splitLast '.' with
  | ([], _) | ([_], _) | (_, []) => (p.name, [])
  | (before, after) => (before.dropLast, '.' :: after)

/-- The last component without its suffix. -/
def stem (p : Path) : Text := p.splitName.1

/-- The last dot of the last component and what follows it. -/
def suffix (p : Path) : Text := p.splitName.2

/-- The shortest way to write the path, if every component is a directory. -/
def normalized (p : Path) : Path := ofText (normalizeText p.text)

end Path

end CompilationDatabase
