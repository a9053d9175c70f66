import CompilationDatabase.Text.Word
import CompilationDatabase.Text.Case.Upper

/-!
# Lines of a solution

A solution lists a project, or a folder, on a line of its own:

    Project("TYPE") = "NAME", "PATH", ...

with any blanks around the equals sign and the commas. Lines of any other form say nothing about
projects.
-/

namespace CompilationDatabase

open Text (after?)

/-- What a line of a solution lists. -/
structure SolutionLine where
  /-- The type, as it is written. -/
  guid : Text
  name : Text
  path : Text
deriving DecidableEq, Repr

namespace SolutionLine

/-- A field in double quotes, and what follows it. -/
def quoted? : Text → Option (Text × Text)
  | '"' :: cs => Text.breakAt? ['"'] cs
  | _ => none

/-- The text without the blanks in front. -/
def skipBlanks (t : Text) : Text := t.dropWhile Text.isBlank

/-- What a line lists, if it has the form of such a line. -/
def ofLine? (line : Text) : Option SolutionLine := do
  let (guid, rest) ← quoted? (← after? "Project(" line)
  let rest ← after? "=" (skipBlanks (← after? ")" rest))
  let (name, rest) ← quoted? (skipBlanks rest)
  let rest ← after? "," (skipBlanks rest)
  let (path, _) ← quoted? (skipBlanks rest)
  return ⟨guid, name, path⟩

/-- The type of a folder. -/
def folderGuid : Text := "\x7b2150E333-8FDC-42A3-9474-1A3956D46DE8\x7d".toList

/-- The type of a project that can be loaded. -/
def projectGuid : Text := "\x7b8BC9CEB8-8B4A-11D0-8D11-00A0C91BC942\x7d".toList

/-- What kinds of things a solution lists. -/
inductive Kind
  | folder
  | project
  | unsupported
deriving DecidableEq, Repr

/-- The kind of what a line lists; types are the same in all letter cases. -/
def kind (l : SolutionLine) : Kind :=
  let guid := l.guid.upper
  if guid = folderGuid then .folder else if guid = projectGuid then .project else .unsupported

end SolutionLine

end CompilationDatabase
