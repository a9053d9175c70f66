import CompilationDatabase.Metadata

/-!
# Contents — what is known of files that are not read

Two versions of a project file are two file trees. They differ in what the file holds, and in nothing
that is asked of a file without reading it: whether it is there, and what its times are. Such trees
are `Alike`.

`alike_of_emptied` says that trees are alike if they are the same once all files are emptied. A path
is followed alike in a tree and in the emptied one (`resolve_emptied`), and comes to the same node
with its files emptied (`node_emptied`).
-/

namespace CompilationDatabase.FileTree

/-- Two machines that are the same to those who read no file. -/
structure Alike (t u : FileTree) : Prop where
  current : u.current = t.current
  isFile  : u.isFile = t.isFile
  times   : u.times = t.times

namespace Node

mutual

/-- The node with all files emptied; their times stay. -/
def emptied : Node → Node
  | file f => file { f with content := [] }
  | directory entries => directory (emptiedEntries entries)

/-- Entries of a directory with all files emptied. -/
def emptiedEntries : List (Text × Node) → List (Text × Node)
  | [] => []
  | (name, node) :: rest => (name, node.emptied) :: emptiedEntries rest

end

theorem lookup_emptiedEntries (name : Text) (entries : List (Text × Node)) :
    (emptiedEntries entries).lookup name = (entries.lookup name).map emptied := by
  induction entries with
  | nil => rfl
  | cons entry rest ih =>
      obtain ⟨other, node⟩ := entry
      rw [emptiedEntries, List.lookup_cons, List.lookup_cons]
      cases name == other with
      | true => rfl
      | false => exact ih

theorem find?_emptied (node : Node) (names : List Text) :
    node.emptied.find? names = (node.find? names).map emptied := by
  induction names generalizing node with
  | nil => rfl
  | cons name names ih =>
      cases node with
      | file f => rfl
      | directory entries =>
          show ((emptiedEntries entries).lookup name).bind (·.find? names)
            = ((entries.lookup name).bind (·.find? names)).map emptied
          rw [lookup_emptiedEntries]
          cases entries.lookup name with
          | none => rfl
          | some child => exact ih child

end Node

/-- The tree with all files emptied. -/
def emptied (t : FileTree) : FileTree := { t with root := t.root.emptied }

theorem follow_emptied (t : FileTree) (here names : List Text) :
    t.emptied.follow here names = t.follow here names := by
  induction names generalizing here with
  | nil => rfl
  | cons name names ih =>
      rw [follow, follow, show t.emptied.root = t.root.emptied from rfl, Node.find?_emptied]
      cases t.root.find? here with
      | none => rfl
      | some node =>
          cases node with
          | file f => rfl
          | directory entries =>
              -- a name is there in both directories, or in neither
              simp only [Option.map_some, Node.emptied, Node.lookup_emptiedEntries,
                Option.isSome_map, ih]

theorem resolve_emptied (t : FileTree) (path : Text) :
    t.emptied.resolve path = t.resolve path := by
  rw [resolve, resolve]
  simp only [follow_emptied]
  rfl

theorem node_emptied (t : FileTree) (path : Text) :
    t.emptied.node path = (t.node path).map Node.emptied := by
  have hroot : t.emptied.root = t.root.emptied := rfl
  rw [node, node, resolve_emptied]
  cases t.resolve path with
  | error reason => rfl
  | ok names =>
      simp only [hroot, Node.find?_emptied]
      cases t.root.find? names <;> rfl

/-- An emptied file keeps its moments, and a directory has those that it had. -/
theorem momentsOf_emptied (t : FileTree) (path : Text) :
    t.emptied.momentsOf path = t.momentsOf path := by
  have hroot : t.emptied.root = t.root.emptied := rfl
  rw [momentsOf, momentsOf, resolve_emptied]
  cases t.resolve path with
  | error reason => rfl
  | ok names =>
      simp only [hroot, Node.find?_emptied]
      cases t.root.find? names with
      | none => rfl
      | some node => cases node <;> rfl

theorem time_emptied (t : FileTree) (moment : Moments → Int) :
    t.emptied.time moment = t.time moment := by
  funext path
  rw [time, time, momentsOf_emptied]

theorem isFile_emptied (t : FileTree) : t.emptied.isFile = t.isFile := by
  funext path
  show isKind _ _ _ = isKind _ _ _
  rw [isKind, isKind, node_emptied]
  cases t.node path with
  | error e => rfl
  | ok node => cases node <;> rfl

theorem times_emptied (t : FileTree) : t.emptied.times = t.times := by
  show FileTimes.mk _ _ _ = FileTimes.mk _ _ _
  rw [time_emptied, time_emptied, time_emptied]

/-- Trees that differ in what files hold at most are alike. -/
theorem alike_of_emptied {t u : FileTree} (h : u.emptied = t.emptied) : t.Alike u where
  current := (congrArg current h : u.emptied.current = t.emptied.current)
  isFile := by rw [← isFile_emptied u, h, isFile_emptied t]
  times := by rw [← times_emptied u, h, times_emptied t]

theorem Alike.refl (t : FileTree) : t.Alike t := ⟨rfl, rfl, rfl⟩

theorem Alike.absolute_eq {t u : FileTree} (h : t.Alike u) (path : Path) :
    u.absolute path = t.absolute path := by
  rw [absolute, absolute, currentPath, currentPath, h.current]

/-- The tree with some files in its root directory, each with its name and what it holds. -/
def ofFiles (files : List (String × String)) : FileTree where
  root := .directory (files.map fun (name, content) =>
    (name.toList, .file { content := Text.Utf8.encode content.toList }))
  current := []

theorem alike_ofFiles {files files' : List (String × String)}
    (h : files'.map (·.1) = files.map (·.1)) : (ofFiles files).Alike (ofFiles files') := by
  have hroot : ∀ files : List (String × String), (ofFiles files).root.emptied
      = .directory ((files.map (·.1)).map fun name => (name.toList, .file { content := [] })) := by
    intro files
    rw [ofFiles, Node.emptied]
    induction files with
    | nil => rfl
    | cons f files ih =>
        rw [List.map_cons, Node.emptiedEntries, Node.directory.inj ih]
        rfl
  refine alike_of_emptied ?_
  show ({ root := (ofFiles files').root.emptied, current := [] } : FileTree)
    = { root := (ofFiles files).root.emptied, current := [] }
  rw [hroot, hroot, h]

end CompilationDatabase.FileTree
