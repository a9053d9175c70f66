import CompilationDatabase.File.Error
import CompilationDatabase.Path.Basic
import CompilationDatabase.Text.Utf8
import CompilationDatabase.Time.Stamp

/-!
# File trees

A `FileTree` is what a program sees of the files of a machine: directories and files below one root,
and the current directory. Paths are followed name by name (`FileTree.follow`): what is followed has
to be a directory, single dots and empty names stay, two dots go back.

Questions about a tree are functions of it. What changes a tree is a `FileTree.Change`, which keeps
what was done before it was refused. A file that is written is emptied first, and the device may have
room for a part of its octets only.
-/

namespace CompilationDatabase

/-- When a file or a directory was last changed, made and last read, in nanoseconds since the start of
    1970. -/
structure Moments where
  modified : Int := 0
  created : Int := 0
  accessed : Int := 0
deriving Repr

/-- A regular file: its octets and its moments. -/
structure File extends Moments where
  content : List UInt8
deriving Repr

/-- A file or a directory. -/
inductive FileTree.Node
  | file (file : File)
  | directory (entries : List (Text × FileTree.Node))

namespace FileTree.Node

/-- The entry of a directory; a file has none. -/
def child? (name : Text) : FileTree.Node → Option FileTree.Node
  | file _ => none
  | directory entries => entries.lookup name

/-- What the names lead to, one directory after the other. -/
def find? : FileTree.Node → List Text → Option FileTree.Node
  | node, [] => some node
  | node, name :: names => (node.child? name).bind (·.find? names)

/-- The entries of a directory with one set. -/
def setEntry (name : Text) (new : FileTree.Node) :
    List (Text × FileTree.Node) → List (Text × FileTree.Node)
  | [] => [(name, new)]
  | e :: es => if e.1 = name then (name, new) :: es else e :: setEntry name new es

/-- The tree with something put where the names lead; directories that are missing are made. A file
    on the way stays as it is. -/
def put : FileTree.Node → List Text → (new : FileTree.Node) → FileTree.Node
  | _, [], new => new
  | file f, _ :: _, _ => file f
  | directory entries, name :: names, new =>
    let old := (entries.lookup name).getD (directory [])
    directory (setEntry name (old.put names new) entries)

/-- All files, with the names that lead to them. -/
def files : FileTree.Node → List (List Text × File)
  | file f => [([], f)]
  | directory entries => entries.attach.flatMap fun ⟨(name, node), _⟩ =>
    node.files.map fun (names, f) => (name :: names, f)
decreasing_by
  have := List.sizeOf_lt_of_mem ‹_›
  simp_all only [Prod.mk.sizeOf_spec, directory.sizeOf_spec]
  omega

end FileTree.Node

/-- The files of a machine, and the names that lead to the current directory. -/
structure FileTree where
  root : FileTree.Node
  current : List Text
  /-- The moments of the directory that some names lead to. -/
  moments : List Text → Moments := fun _ => {}

namespace FileTree

/-- The octets of a name may not be more than this. -/
def longestName : Nat := 255

/-- The octets of a path may not be more than this. -/
def longestPath : Nat := 4095

/-- The current directory as a path. -/
def currentPath (t : FileTree) : Path := ⟨[Path.separator], t.current⟩

/-- The path from the root of all files. -/
def absolute (t : FileTree) (p : Path) : Path := t.currentPath.join p

/-- Follows the names of a path from where some names lead. -/
def follow (t : FileTree) : (here : List Text) → List Text → Except FileError.Reason (List Text)
  | here, [] => .ok here
  | here, name :: names =>
    match t.root.find? here with
    | some (.directory entries) =>
      if name = [] ∨ name = ['.'] then t.follow here names
      else if name = ['.', '.'] then t.follow here.dropLast names
      else if longestName < (Text.Utf8.encode name).length then .error .nameTooLong
      else if (entries.lookup name).isSome then t.follow (here ++ [name]) names
      else .error .notFound
    | _ => .error .notDirectory

/-- The names that lead to what a path stands for. -/
def resolve (t : FileTree) (path : Text) : Except FileError.Reason (List Text) :=
  if '\x00' ∈ path then .error .nullCharacter
  else if path.isEmpty then .error .notFound
  else if longestPath < (Text.Utf8.encode path).length then .error .nameTooLong
  else t.follow (if path.head? = some Path.separator then [] else t.current)
    (path.pieces Path.separator)

/-- The file or directory that a path stands for. -/
def node (t : FileTree) (path : Text) : Except FileError Node :=
  match t.resolve path with
  | .error reason => .error ⟨reason, path⟩
  | .ok names =>
    match t.root.find? names with
    | some node => .ok node
    | none => .error ⟨.notFound, path⟩

/-- The moments of the file or directory that a path stands for. -/
def momentsOf (t : FileTree) (path : Text) : Except FileError Moments :=
  match t.resolve path with
  | .error reason => .error ⟨reason, path⟩
  | .ok names =>
    match t.root.find? names with
    | some (.file f) => .ok f.toMoments
    | some (.directory _) => .ok (t.moments names)
    | none => .error ⟨.notFound, path⟩

/-- Whether something of a kind is at a path. What is not there is of no kind; only a name that is
    too long cannot be asked for. -/
def isKind (kind : Node → Bool) (t : FileTree) (path : Text) : Except FileError Bool :=
  match t.node path with
  | .ok node => .ok (kind node)
  | .error e => if e.reason = .nameTooLong then .error e else .ok false

/-- Whether a file is at a path. -/
def isFile : FileTree → Text → Except FileError Bool :=
  isKind fun | .file _ => true | .directory _ => false

/-- Whether a directory is at a path. -/
def isDirectory : FileTree → Text → Except FileError Bool :=
  isKind fun | .file _ => false | .directory _ => true

/-- The octets of the file at a path. -/
def read (t : FileTree) (path : Text) : Except FileError (List UInt8) := do
  match ← t.node path with
  | .file f => return f.content
  | .directory _ => throw ⟨.isDirectory, path⟩

/-- The names of the files in a directory. What is no directory has none. -/
def fileNames (t : FileTree) (path : Text) : Except FileError (List Text) := do
  if ← t.isDirectory path then
    match ← t.node path with
    | .file _ => return []
    | .directory entries =>
      return entries.filterMap fun (name, node) =>
        match node with
        | .file _ => some name
        | .directory _ => none
  else return []

/-! ## Changes -/

/-- Something done to the files, which may be refused. -/
abbrev Change := EStateM FileError FileTree

/-- Makes one directory; its own directory has to be there. -/
def makeDirectory (path : Text) : Change Unit := do
  let t ← get
  let names := path.pieces Path.separator
  let start := if path.head? = some Path.separator then [] else t.current
  if '\x00' ∈ path then throw ⟨.nullCharacter, path⟩
  if longestPath < (Text.Utf8.encode path).length then throw ⟨.nameTooLong, path⟩
  match t.follow start names.dropLast with
  | .error reason => throw ⟨reason, path⟩
  | .ok here =>
    let name := names.getLastD []
    match t.root.find? here with
    | some (.directory entries) =>
      if name = [] ∨ name = ['.'] ∨ name = ['.', '.'] then throw ⟨.exists, path⟩
      if longestName < (Text.Utf8.encode name).length then throw ⟨.nameTooLong, path⟩
      if (entries.lookup name).isSome then throw ⟨.exists, path⟩
      set { t with root := t.root.put (here ++ [name]) (.directory []) }
    | _ => throw ⟨.notDirectory, path⟩

/-- Does nothing if a directory is at the path, else refuses for the given reason. -/
def orIsDirectory (path : Text) (e : FileError) : Change Unit := do
  match (← get).isDirectory path with
  | .ok true => return
  | .ok false => throw e
  | .error e => throw e

/-- Makes a directory, and before it the directories it is in. One that is there already is left as
    it is. -/
def makeDirectories (p : Path) : Change Unit :=
  tryCatch (makeDirectory p.text) fun e => do
    if e.reason = .notFound then
      if h : p.parts = [] then throw e
      else
        makeDirectories p.parent
        tryCatch (makeDirectory p.text) fun e =>
          if e.reason = .notFound then throw e else orIsDirectory p.text e
    else orIsDirectory p.text e
termination_by p.parts.length
decreasing_by
  have := List.length_pos_iff.2 h
  simp only [Path.parent, List.length_dropLast]
  omega

/-- Opens a file to be written, and tells the names that lead to it: what it held is gone, and a file
    that was not there is there and empty. -/
def openEmpty (path : Text) : Change (List Text) := do
  let t ← get
  let names := path.pieces Path.separator
  let start := if path.head? = some Path.separator then [] else t.current
  match t.resolve path with
  | .ok here =>
    match t.root.find? here with
    | some (.file f) =>
      set { t with root := t.root.put here (.file { f with content := [] }) }
      return here
    | _ => throw ⟨.isDirectory, path⟩
  | .error .notFound =>
    match t.follow start names.dropLast with
    | .error reason => throw ⟨reason, path⟩
    | .ok here =>
      let here := here ++ [names.getLastD []]
      set { t with root := t.root.put here (.file { content := [] }) }
      return here
  | .error reason => throw ⟨reason, path⟩

/-- Writes octets to the end of the open file that some names lead to, as many as there is `room` for
    on the device; without a number there is room for all. -/
def append (room : Option Nat) (path : Text) (here : List Text) (octets : List UInt8) :
    Change Unit := do
  let written := (room.map octets.take).getD octets
  let t ← get
  if let some (.file f) := t.root.find? here then
    set { t with root := t.root.put here (.file { f with content := f.content ++ written }) }
  if written.length < octets.length then throw ⟨.noRoom, path⟩

/-- Writes a file, in place of what it held before. -/
def write (room : Option Nat) (path : Text) (content : List UInt8) : Change Unit := do
  append room path (← openEmpty path) content

end FileTree

end CompilationDatabase
