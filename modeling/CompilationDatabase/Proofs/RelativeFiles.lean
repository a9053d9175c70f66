import CompilationDatabase.Proofs.FileChanges

/-!
# Relative files — what is at an absolute path is at the relative one

An absolute path is followed from the root of all files, and a relative one from the current directory.
`FileTree.isFile_of_absolute` says that a file which is at the first is at the second too, if the absolute
path has only names. For these are followed one below the other (`eq_append_of_follow`), so the way
from the root goes through the current directory. Empty components and single dots only ask for more
on the way (`follow_filter_isStep`).
-/

namespace CompilationDatabase.FileTree

open CompilationDatabase.Path

variable {files : FileTree} {path : Text}

/-! ## Paths that lead somewhere -/

theorem resolve_eq_ok_iff {names : List Text} :
    files.resolve path = .ok names ↔ '\x00' ∉ path ∧ path ≠ [] ∧
      (Text.Utf8.encode path).length ≤ longestPath ∧
      files.follow (files.start path) (path.pieces separator) = .ok names := by
  rw [resolve, start]
  by_cases hnull : '\x00' ∈ path
  · simp [hnull]
  by_cases hempty : path = []
  · simp [hempty]
  by_cases hlong : longestPath < (Text.Utf8.encode path).length
  · simp [hnull, hempty, hlong, Nat.not_le.mpr hlong]
  · simp [hnull, hempty, hlong, Nat.not_lt.mp hlong]

theorem node_eq_ok_iff {node : Node} :
    files.node path = .ok node ↔
      ∃ names, files.resolve path = .ok names ∧ files.root.find? names = some node := by
  rw [FileTree.node]
  cases files.resolve path with
  | error reason => exact ⟨nofun, nofun⟩
  | ok names =>
      dsimp only
      constructor
      · intro h
        split at h
        · exact ⟨names, rfl, Except.ok.inj h ▸ ‹_›⟩
        · exact nomatch h
      · rintro ⟨names', hnames, hfind⟩
        rw [Except.ok.inj hnames, hfind]

theorem isFile_iff : files.isFile path = .ok true ↔ ∃ f, files.node path = .ok (.file f) := by
  show isKind _ _ _ = _ ↔ _
  rw [isKind]
  cases files.node path with
  | error e =>
      dsimp only
      constructor
      · intro h
        split at h <;> exact nomatch h
      · exact nofun
  | ok node =>
      cases node with
      | file f => exact ⟨fun _ => ⟨f, rfl⟩, fun _ => rfl⟩
      | directory entries => exact ⟨nofun, nofun⟩

theorem isDirectory_of_isFile (h : files.isFile path = .ok true) :
    files.isDirectory path = .ok false := by
  obtain ⟨f, hnode⟩ := isFile_iff.mp h
  show isKind _ _ _ = _
  rw [isKind, hnode]

theorem isFile_of_read {octets : List UInt8} (h : files.read path = .ok octets) :
    files.isFile path = .ok true := by
  rw [read] at h
  cases hnode : files.node path with
  | error e =>
      rw [hnode] at h
      exact nomatch h
  | ok node =>
      rw [hnode] at h
      cases node with
      | file f => exact isFile_iff.mpr ⟨f, hnode⟩
      | directory entries => exact nomatch h

/-! ## Following names -/

/-- Names are followed in a directory. -/
theorem directory_of_follow {here names there : List Text} {name : Text}
    (h : files.follow here (name :: names) = .ok there) :
    ∃ entries, files.root.find? here = some (.directory entries) := by
  rw [follow] at h
  cases hfind : files.root.find? here with
  | none =>
      rw [hfind] at h
      cases h
  | some node =>
      cases node with
      | file f =>
          rw [hfind] at h
          cases h
      | directory entries => exact ⟨entries, rfl⟩

/-- What stays where it is can be left out. -/
theorem follow_filter_isStep {here names there : List Text} (h : files.follow here names = .ok there) :
    files.follow here (names.filter isStep) = .ok there := by
  induction names generalizing here with
  | nil => exact h
  | cons name names ih =>
      obtain ⟨entries, hfind⟩ := directory_of_follow h
      rw [follow, hfind] at h
      dsimp only at h
      by_cases hstay : name = [] ∨ name = ['.']
      · rw [if_pos hstay] at h
        rw [List.filter_cons_of_neg fun hstep => isStep_iff.mp hstep hstay]
        exact ih h
      · rw [if_neg hstay] at h
        rw [List.filter_cons_of_pos (isStep_iff.mpr hstay), follow, hfind]
        dsimp only
        rw [if_neg hstay]
        split_ifs at h ⊢ <;> exact ih h

/-- Names are followed one below the other. -/
theorem eq_append_of_follow {names here there : List Text} (hreal : ∀ name ∈ names, IsReal name)
    (h : files.follow here names = .ok there) : there = here ++ names := by
  induction names generalizing here with
  | nil =>
      rw [List.append_nil]
      exact (Except.ok.inj h).symm
  | cons name names ih =>
      obtain ⟨hname, hnames⟩ := List.forall_mem_cons.mp hreal
      obtain ⟨entries, hfind⟩ := directory_of_follow h
      rw [follow, hfind] at h
      dsimp only at h
      rw [if_neg hname.not_stay, if_neg hname.2.1] at h
      split_ifs at h
      rw [ih hnames h, List.append_assoc, List.singleton_append]

/-! ## Relative paths -/

/-- A relative path is written at the end of its absolute one. -/
theorem join_suffix_absolute (files : FileTree) {parts : List Text} (hparts : parts ≠ []) :
    Text.join separator parts <:+ (files.absolute ⟨[], parts⟩).text := by
  show _ <:+ separator :: Text.join separator (files.current ++ parts)
  by_cases hcurrent : files.current = []
  · rw [hcurrent]
    exact List.suffix_cons separator _
  · rw [Text.join_append separator hcurrent hparts]
    exact ⟨separator :: (Text.join separator files.current ++ [separator]), by simp⟩

/-- A relative path leads to where its absolute one does, if that has only names. -/
theorem resolve_of_absolute {parts names : List Text} (hparts : parts ≠ [])
    (hreal : ∀ part ∈ files.current ++ parts, IsReal part)
    (h : files.resolve (files.absolute ⟨[], parts⟩).text = .ok names) :
    files.resolve (⟨[], parts⟩ : Path).text = .ok names := by
  obtain ⟨before, hbefore⟩ := join_suffix_absolute files hparts
  have htext : (⟨[], parts⟩ : Path).text = Text.join separator parts := by
    rw [text, if_neg (by simpa using hparts)]
    rfl
  have hsteps : steps (files.absolute ⟨[], parts⟩).text = files.current ++ parts :=
    congrArg Path.parts
      (ofText_text (p := files.absolute ⟨[], parts⟩) (Or.inl rfl) (isComponent_of_real hreal))
  obtain ⟨hcurrent, hreal⟩ := List.forall_mem_append.mp hreal
  have hcomponents := isComponent_of_real hreal
  obtain ⟨hnull, -, hlong, hfollow⟩ := resolve_eq_ok_iff.mp h
  rw [start, if_pos (by rfl)] at hfollow
  rw [htext]
  refine resolve_eq_ok_iff.mpr ⟨?_, ?_, ?_, ?_⟩
  · intro hmem
    exact hnull (hbefore ▸ List.mem_append_right before hmem)
  · intro hnil
    exact hparts ((steps_join hcomponents).symm.trans (by rw [hnil]; rfl))
  · refine Nat.le_trans ?_ hlong
    rw [← hbefore, Text.Utf8.encode, Text.Utf8.encode, List.flatMap_append, List.length_append]
    exact Nat.le_add_left _ _
  · have hwhole : files.follow [] (files.current ++ parts) = .ok names := by
      rw [← hsteps]
      exact follow_filter_isStep hfollow
    rw [follow_append] at hwhole
    obtain ⟨here, hhere, hbelow⟩ := ok_of_bind hwhole
    obtain rfl : here = files.current := eq_append_of_follow hcurrent hhere
    rw [start, if_neg (head?_join hcomponents),
      Text.pieces_join_of_not_mem hparts fun part hpart => (hcomponents part hpart).2]
    exact hbelow

/-- **A file is at a relative path if it is at the absolute one.** -/
theorem isFile_of_absolute {p : Path} (hcurrent : files.isDirectory files.currentPath.text = .ok true)
    (hreal : ∀ part ∈ (files.absolute p).parts, IsReal part)
    (h : files.isFile (files.absolute p).text = .ok true) : files.isFile p.text = .ok true := by
  obtain ⟨root, parts⟩ := p
  cases root with
  | cons c root => exact h
  | nil =>
      have hparts : parts ≠ [] := by
        intro hnil
        have hhere : files.absolute ⟨[], parts⟩ = files.currentPath := by
          rw [hnil]
          exact congrArg (Path.mk _) (List.append_nil files.current)
        rw [hhere] at h
        rw [isDirectory_of_isFile h] at hcurrent
        exact nomatch hcurrent
      obtain ⟨f, hnode⟩ := isFile_iff.mp h
      obtain ⟨names, hresolve, hfind⟩ := node_eq_ok_iff.mp hnode
      exact isFile_iff.mpr
        ⟨f, node_eq_ok_iff.mpr ⟨names, resolve_of_absolute hparts hreal hresolve, hfind⟩⟩

end CompilationDatabase.FileTree
