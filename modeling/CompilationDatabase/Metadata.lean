import CompilationDatabase.Expansion
import CompilationDatabase.File.Tree
import CompilationDatabase.Text.Word

/-!
# Metadata — what is known of every item

An item of a project is a path, its identity, as it is written in the project, and the directory of
the project. The metadata of an item are derived from these two and from the times of the file:
eleven values, each with a name. No other name is known.

`expandMetadata` replaces `%(Name)` by the metadata of an item, and the name of the property that
is being expanded by nothing: so a property refers to the value that it extends.
-/

namespace CompilationDatabase

/-- Where the times of a file are asked for; a file that is not there has an empty text for a
    time. -/
structure FileTimes (μ : Type → Type) where
  modified : Text → μ Text
  created : Text → μ Text
  accessed : Text → μ Text

namespace FileTree

/-- A time of a file or directory: one of its moments, written in words. -/
def time (t : FileTree) (moment : Moments → Int) (path : Text) : Except Fault Text :=
  match t.momentsOf path with
  | .ok m => (Stamp.messageOfSeconds (Stamp.secondsOfNanos (moment m))).mapError .time
  | .error e => if e.reason = .notFound then .ok [] else .error (.file e)

/-- The times of the files of a tree. -/
def times (t : FileTree) : FileTimes (Except Fault) where
  modified := t.time (·.modified)
  created := t.time (·.created)
  accessed := t.time (·.accessed)

end FileTree

/-- The names of the values that every item has. -/
inductive Metadata
  | fullPath
  | rootDir
  | filename
  | extension
  | relativeDir
  | directory
  | recursiveDir
  | identity
  | modifiedTime
  | createdTime
  | accessedTime
deriving DecidableEq, Repr

namespace Metadata

/-- All metadata, in the order in which they are listed. -/
def all : List Metadata :=
  [fullPath, rootDir, filename, extension, relativeDir, directory, recursiveDir, identity,
    modifiedTime, createdTime, accessedTime]

/-- The name of a value. -/
def name : Metadata → Text
  | fullPath => "FullPath".toList
  | rootDir => "RootDir".toList
  | filename => "Filename".toList
  | extension => "Extension".toList
  | relativeDir => "RelativeDir".toList
  | directory => "Directory".toList
  | recursiveDir => "RecursiveDir".toList
  | identity => "Identity".toList
  | modifiedTime => "ModifiedTime".toList
  | createdTime => "CreatedTime".toList
  | accessedTime => "AccessedTime".toList

/-- The value with a name, in any letter case. -/
def ofName? (name : Text) : Option Metadata := all.find? fun d => d.name.lower == name.lower

theorem mem_all (d : Metadata) : d ∈ all := by
  cases d <;> decide

end Metadata

/-- What an item is derived from: its path as it is written, and the directory of its project. -/
structure Origin where
  identity : Text
  projectDir : Text
deriving DecidableEq, Repr

namespace Origin

/-- The path of the file. -/
def fullPath (o : Origin) : Text :=
  Path.normalizeText (Path.joinText o.projectDir (Path.native o.identity))

/-- The root that the project is under. -/
def rootDir (o : Origin) : Text := Path.rootText o.projectDir

/-- The directory of the file, without the root. -/
def directory (o : Origin) : Text :=
  let parent := Path.dirName o.fullPath
  Path.closed ((o.rootDir.isPrefixOf? parent).getD parent)

/-- The name of the file, without its extension. -/
def filename (o : Origin) : Text := (Path.splitExtension (Path.baseName (Path.native o.identity))).1

/-- The extension of the file, with its dot. -/
def extension (o : Origin) : Text := (Path.splitExtension (Path.native o.identity)).2

/-- The directory as it is written. -/
def relativeDir (o : Origin) : Text := Path.closed (Path.dirName (Path.native o.identity))

variable {μ : Type → Type} [Monad μ] [MonadExceptOf Fault μ] {m : Matching}

/-- The value of one of the metadata. -/
def value (times : FileTimes μ) (o : Origin) : Metadata → μ Text
  | .fullPath => pure o.fullPath
  | .rootDir => pure o.rootDir
  | .filename => pure o.filename
  | .extension => pure o.extension
  | .relativeDir => pure o.relativeDir
  | .directory | .recursiveDir => pure o.directory
  | .identity => pure o.identity
  | .modifiedTime => times.modified o.fullPath
  | .createdTime => times.created o.fullPath
  | .accessedTime => times.accessed o.fullPath

/-- The value with a name, which has to be known. -/
def valueOf (times : FileTimes μ) (o : Origin) (location : Option Text) (name : Text) : μ Text :=
  match Metadata.ofName? name with
  | some d => o.value times d
  | none => throw (.failed (.unknownMetadata name) location)

/-- The value of a name inside a property: the property itself stands for nothing there. -/
def valueWithin (times : FileTimes μ) (o : Origin) (location : Option Text)
    (property name : Text) : μ Text :=
  if property ≠ [] ∧ name.lower = property.lower then pure [] else o.valueOf times location name

/-- Expands the metadata in a text that belongs to a property, or to none if its name is empty. -/
def expandMetadata (times : FileTimes μ) (o : Origin) (location : Option Text)
    (property text : Text) : μ Text :=
  expand .metadata location (o.valueWithin times location property) (Metadata.all.length + 1) text

/-- The character between the elements of a property value. -/
def listSeparator : Char := ';'

/-- Expands one element of a property value: first its metadata, then its macros, which inherited
    values may hold. -/
def expandElement (times : FileTimes μ) (o : Origin) (location : Option Text) (property : Text)
    (macros : NameTable m) (element : Text) : μ Text := do
  let text ← o.expandMetadata times location property element.strip
  match macros.expand location text with
  | .ok text => return text
  | .error fault => throw fault

/-- Expands a property value, element by element; elements that come out empty are dropped. -/
def expandProperty (times : FileTimes μ) (o : Origin) (location : Option Text) (property : Text)
    (macros : NameTable m) (value : Text) : μ Text := do
  let elements ← (value.pieces listSeparator).mapM (o.expandElement times location property macros)
  return Text.join listSeparator (elements.filter (· ≠ []))

end Origin

end CompilationDatabase
