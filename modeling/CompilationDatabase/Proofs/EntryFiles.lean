import CompilationDatabase.Proofs.NormalPaths
import CompilationDatabase.Proofs.ShellWords

/-!
# Entry files — the file that an entry of a database denotes

The file of an entry is what is left of the full path of the item when the text of the directory is cut
off. The cut looks at characters alone, and still it is made exactly for the paths below the directory,
component by component (`isBelow_of_eq`, `exists_of_isBelow`): a full path is normal, so it is its root
and its components, and after a component that only starts like the last one of the directory there is
no separator where the cut would end.

What is left of a normal path does not start with a separator. So it is relative, and taken from the
directory it is the full path again (`denotes_ofItem`). A path from which nothing is cut off is absolute.
-/

namespace CompilationDatabase

/-! ## Characters of a full path -/

namespace Path

theorem mem_advance {absolute : Bool} {back : List Text} {component part : Text}
    (h : part ∈ advance absolute back component) : part = component ∨ part ∈ back := by
  rw [advance.eq_def] at h
  by_cases hdots : component = ['.', '.']
  · rw [if_neg (not_not.mpr hdots)] at h
    cases back with
    | nil =>
        cases absolute with
        | false => exact Or.inl (List.mem_singleton.mp h)
        | true => exact absurd h List.not_mem_nil
    | cons last rest =>
        dsimp only at h
        split at h
        · exact List.mem_cons.mp h
        · exact Or.inr (List.mem_cons_of_mem last h)
  · rw [if_pos hdots] at h
    exact List.mem_cons.mp h

theorem mem_foldl_advance {absolute : Bool} {components back : List Text} {part : Text}
    (h : part ∈ components.foldl (advance absolute) back) : part ∈ components ∨ part ∈ back := by
  induction components generalizing back with
  | nil => exact Or.inr h
  | cons component components ih =>
      rcases ih h with hrest | hback
      · exact Or.inl (List.mem_cons_of_mem component hrest)
      · rcases mem_advance hback with rfl | hback
        · exact Or.inl List.mem_cons_self
        · exact Or.inr hback

theorem mem_rootText {t : Text} {c : Char} (h : c ∈ rootText t) : c = separator := by
  rw [rootText] at h
  split at h
  · exact absurd h List.not_mem_nil
  · simpa using h
  · simpa using h

/-- Normalising brings in separators and dots, and no other characters. -/
theorem mem_normalizeText {t : Text} {c : Char} (h : c ∈ normalizeText t) :
    c = separator ∨ c = '.' ∨ c ∈ t := by
  rw [normalizeText] at h
  split at h
  · exact Or.inr (Or.inl (List.mem_singleton.mp h))
  rcases List.mem_append.mp h with hroot | hjoin
  · exact Or.inl (mem_rootText hroot)
  rcases Text.mem_join hjoin with hseparator | ⟨part, hpart, hc⟩
  · exact Or.inl hseparator
  rcases mem_foldl_advance (List.mem_reverse.mp hpart) with hstep | hnil
  · have hpiece := Text.infix_of_mem_pieces (List.mem_filter.mp hstep).1
    exact Or.inr (Or.inr (hpiece.subset hc))
  · exact absurd hnil List.not_mem_nil

theorem mem_joinText {directory path : Text} {c : Char} (h : c ∈ joinText directory path) :
    c = separator ∨ c ∈ directory ∨ c ∈ path := by
  rw [joinText] at h
  split at h
  · exact Or.inr (Or.inr h)
  split at h
  · exact Or.inr (List.mem_append.mp h)
  · rcases List.mem_append.mp h with hdirectory | hpath
    · exact Or.inr (Or.inl hdirectory)
    · exact (List.mem_cons.mp hpath).imp_right Or.inr

theorem not_mem_native (t : Text) : '\\' ∉ native t := by
  intro h
  obtain ⟨c, -, hc⟩ := List.mem_map.mp h
  by_cases hback : c = '\\'
  · rw [if_pos hback] at hc
    exact nomatch hc
  · rw [if_neg hback] at hc
    exact hback hc

theorem head?_joinText {directory : Text} (h : directory.head? = some separator) (path : Text) :
    (joinText directory path).head? = some separator := by
  by_cases hpath : path.head? = some separator
  · rw [joinText_of_absolute hpath, hpath]
  · obtain ⟨rest, hrest⟩ := exists_joinText hpath directory
    rw [hrest, List.head?_append, h, Option.some_or]

end Path

namespace Origin

open CompilationDatabase.Path

variable {o : Origin}

theorem not_mem_fullPath (h : '\\' ∉ o.projectDir) : '\\' ∉ o.fullPath := by
  intro hmem
  rcases mem_normalizeText hmem with hseparator | hdot | hjoin
  · exact absurd hseparator (by decide)
  · exact absurd hdot (by decide)
  rcases mem_joinText hjoin with hseparator | hdirectory | hidentity
  · exact absurd hseparator (by decide)
  · exact h hdirectory
  · exact not_mem_native o.identity hidentity

/-- The full path of an item is a root and components that are names. -/
theorem exists_fullPath (h : o.projectDir.head? = some separator) :
    ∃ root parts, IsRoot root ∧ (∀ part ∈ parts, IsReal part) ∧
      o.fullPath = root ++ Text.join separator parts := by
  have habsolute := head?_joinText h (native o.identity)
  obtain ⟨parts, hparts, heq⟩ := exists_normalizeText habsolute
  exact ⟨_, parts, isRoot_rootText habsolute, hparts, heq⟩

end Origin

/-! ## Paths below a directory -/

namespace Path

/-- Whether a path lies below a directory: it has the root and the components of the directory, in
    order, and more components after them. -/
def IsBelow (directory p : Path) : Prop :=
  p.root = directory.root ∧ directory.parts <+: p.parts ∧ p.parts ≠ directory.parts

instance (directory p : Path) : Decidable (directory.IsBelow p) :=
  inferInstanceAs (Decidable (_ ∧ _ ∧ _))

/-- A path beside the directory, in one whose name goes on like its name, is not below it. -/
example : ¬ (ofText "/w/d".toList).IsBelow (ofText "/w/dx/a".toList) := by decide

/-- A directory as it is read from a text: absolute, with a component at least, and written without
    backslashes. It does not have to be normal. -/
structure IsBase (directory : Path) : Prop where
  read     : ofText directory.text = directory
  absolute : directory.isAbsolute = true
  parts    : directory.parts ≠ []
  slashes  : '\\' ∉ directory.text

namespace IsBase

variable {directory : Path}

theorem rootText_text (h : directory.IsBase) : rootText directory.text = directory.root :=
  congrArg Path.root h.read

theorem steps_text (h : directory.IsBase) : steps directory.text = directory.parts :=
  congrArg Path.parts h.read

theorem text_eq (h : directory.IsBase) :
    directory.text = directory.root ++ Text.join separator directory.parts := by
  have hroot : directory.root.isEmpty = false := by simpa [isAbsolute] using h.absolute
  rw [text, hroot]
  rfl

/-- The text ends with its last component, and so not with a separator. -/
theorem exists_last (h : directory.IsBase) :
    ∃ start c, directory.text = start ++ [c] ∧ c ≠ separator := by
  obtain ⟨before, last, hlast⟩ := (List.eq_nil_or_concat' directory.parts).resolve_left h.parts
  have hstep : last ∈ steps directory.text := by
    rw [h.steps_text, hlast]
    exact List.mem_append_right before List.mem_cons_self
  obtain ⟨hnames, hseparator⟩ := of_mem_steps hstep
  have hne : last ≠ [] := by
    rintro rfl
    exact absurd hnames (by decide)
  obtain ⟨name, c, rfl⟩ := (List.eq_nil_or_concat' last).resolve_left hne
  obtain ⟨start, hjoin⟩ := Text.exists_join_concat separator before (name ++ [c])
  refine ⟨directory.root ++ (start ++ name), c, ?_, ?_⟩
  · rw [h.text_eq, hlast, hjoin]
    simp
  · rintro rfl
    exact hseparator (List.mem_append_right name List.mem_cons_self)

theorem exists_component (h : directory.IsBase) : ∃ c ∈ directory.text, c ≠ separator := by
  obtain ⟨start, c, htext, hc⟩ := h.exists_last
  exact ⟨c, htext ▸ List.mem_append_right start List.mem_cons_self, hc⟩

/-- The text that is cut off is that of the directory, with one separator. -/
theorem baseText_text (h : directory.IsBase) :
    CompileCommand.baseText directory.text = directory.text ++ [separator] := by
  obtain ⟨base, tail, hbase, htext, htail⟩ := CompileCommand.baseText_spec h.slashes
  obtain ⟨start, c, hlast, hc⟩ := h.exists_last
  rcases List.eq_nil_or_concat' tail with rfl | ⟨separators, d, rfl⟩
  · rw [hbase, htext, List.append_nil]
  · have hd : d = separator := htail d (List.mem_append_right separators List.mem_cons_self)
    have hends : (start ++ [c]).getLast? = (base ++ (separators ++ [d])).getLast? := by
      rw [← hlast, htext]
    rw [← List.append_assoc, List.getLast?_concat, List.getLast?_concat] at hends
    exact absurd ((Option.some.inj hends).trans hd) hc

variable {root : Text} {parts : List Text}

/-- A normal path from which the text of the directory can be cut off is below it. -/
theorem isBelow_of_eq (h : directory.IsBase) (hroot : IsRoot root)
    (hparts : ∀ part ∈ parts, IsReal part) {rest : Text}
    (hrest : root ++ Text.join separator parts
      = CompileCommand.baseText directory.text ++ rest) : directory.IsBelow ⟨root, parts⟩ := by
  rw [h.baseText_text, List.append_assoc, List.singleton_append] at hrest
  have hcomponents := isComponent_of_real hparts
  have hsame : root = directory.root := by
    rw [← rootText_append_join hroot hcomponents, hrest, rootText_append h.exists_component,
      h.rootText_text]
  have hsteps : parts = directory.parts ++ steps rest := by
    rw [← steps_join hcomponents, ← steps_append_root hroot, hrest, steps_append, h.steps_text]
  refine ⟨hsame, ⟨steps rest, hsteps.symm⟩, ?_⟩
  -- otherwise the path would be the directory, which has no separator at its end
  intro (hwhole : parts = directory.parts)
  rw [hsame, hwhole, ← h.text_eq] at hrest
  exact absurd (List.self_eq_append_right.mp hrest) (List.cons_ne_nil separator rest)

/-- From a path below the directory it is cut off before the first component that is not its own. -/
theorem exists_of_isBelow (h : directory.IsBase) (hbelow : directory.IsBelow ⟨root, parts⟩) :
    ∃ more, more ⊆ parts ∧ root ++ Text.join separator parts
      = CompileCommand.baseText directory.text ++ Text.join separator more := by
  obtain ⟨hsame, ⟨more, hmore⟩, hne⟩ := hbelow
  obtain rfl : root = directory.root := hsame
  obtain rfl : directory.parts ++ more = parts := hmore
  have hnonempty : more ≠ [] := by
    rintro rfl
    exact hne (List.append_nil directory.parts)
  refine ⟨more, List.subset_append_right directory.parts more, ?_⟩
  rw [Text.join_append separator h.parts hnonempty, h.baseText_text, h.text_eq]
  simp

end IsBase

end Path

/-! ## The files of entries -/

namespace CompileCommand

open CompilationDatabase.Path

/-- What the file of an entry is, by the full path of its item: taken from the directory of the entry it
    is the full path, and it is relative if and only if that is below the directory of the build. -/
structure Denotes (directory : Path) (fullPath : Text) (c : CompileCommand) : Prop where
  denotes  : normalizeText (joinText c.directory c.file) = fullPath
  relative : c.file.head? ≠ some separator ↔ directory.IsBelow (ofText fullPath)

variable {directory : Path} {item : Item}

theorem denotes_ofItem (h : directory.IsBase) (habsolute : item.projectDir.head? = some separator)
    (hslashes : '\\' ∉ item.projectDir) (store : PropertyStore) :
    Denotes directory item.fullPath (ofItem directory.text store item) := by
  obtain ⟨root, parts, hroot, hparts, hfull⟩ := Origin.exists_fullPath (o := item.origin) habsolute
  have hback : '\\' ∉ item.fullPath := Origin.not_mem_fullPath hslashes
  have hread : ofText item.fullPath = ⟨root, parts⟩ := by
    show ofText item.origin.fullPath = _
    rw [hfull, ofText_join hroot (isComponent_of_real hparts)]
  have hnormal : normalizeText item.fullPath = item.fullPath := by
    show normalizeText item.origin.fullPath = item.origin.fullPath
    rw [hfull, normalizeText_of_real hroot hparts]
  have hdirectory : native directory.text = directory.text := native_of_not_mem h.slashes
  by_cases hbelow : directory.IsBelow ⟨root, parts⟩
  · obtain ⟨more, hmore, hrest⟩ := h.exists_of_isBelow hbelow
    have hrest : item.fullPath = baseText directory.text ++ Text.join separator more :=
      hfull.trans hrest
    have hnative : native (Text.join separator more) = Text.join separator more :=
      native_of_not_mem fun hmem => hback (hrest ▸ List.mem_append_right _ hmem)
    have hhead : (Text.join separator more).head? ≠ some separator :=
      head?_join fun part hpart => (hparts part (hmore hpart)).isComponent
    have hfile : (ofItem directory.text store item).file = Text.join separator more := by
      show relativePath directory.text item.fullPath = _
      rw [hrest, relativePath_of_below, hnative]
    refine ⟨?_, ?_⟩
    · rw [hfile]
      show normalizeText (joinText (native directory.text) _) = _
      have hdenotes := normalizeText_below h.exists_component h.slashes (hnative.symm ▸ hhead)
      rw [hnative, ← hrest, native_of_not_mem hback, hnormal] at hdenotes
      rw [hdirectory, hdenotes]
    · rw [hfile, hread]
      exact iff_of_true hhead hbelow
  · have hhead : item.fullPath.head? = some separator := by
      show item.origin.fullPath.head? = _
      rw [hfull]
      rcases hroot with rfl | rfl <;> rfl
    have hfile : (ofItem directory.text store item).file = item.fullPath := by
      show relativePath directory.text item.fullPath = item.fullPath
      rw [relativePath_of_not_below, native_of_not_mem hback]
      intro rest hrest
      exact hbelow (h.isBelow_of_eq hroot hparts (hfull.symm.trans hrest))
    refine ⟨?_, ?_⟩
    · rw [hfile, joinText_of_absolute hhead, hnormal]
    · rw [hfile, hread]
      exact iff_of_false (not_not.mpr hhead) hbelow

end CompileCommand

namespace Build

open CompilationDatabase.Path

variable {m : Matching}

/-- **The file of an entry denotes the file of its item.** A build has one entry for each item that is
    compiled, in their order. Whatever the identity of the item is, the file taken from the directory of
    the entry is the full path, and it is relative exactly if this lies below the directory of the build,
    component by component. -/
theorem commands_denote (b : Build m) (h : b.root.IsBase) :
    List.Forall₂ (fun x c => x.2.projectDir.head? = some separator → '\\' ∉ x.2.projectDir →
      CompileCommand.Denotes b.root x.2.fullPath c) b.compiled b.commands := by
  refine forall₂_commands fun x _ habsolute hslashes => ?_
  exact CompileCommand.denotes_ofItem h habsolute hslashes x.1.store

/-- A build in `/w/d` whose project has a file of the build, written with separators of both kinds and
    some of them twice, and a file in the directory beside it whose name goes on like this one's. -/
def siblingBuild : Build .ignoringCase where
  path := .ofText "/w/d/d.sln".toList
  macros := .empty
  projects := [{
    name := ['p'], path := .ofText "/w/d/p/p.vcxproj".toList, macros := .empty, store := {}
    items := [
      { type := "ClCompile".toList, identity := "..\\.\\a//b.cpp".toList,
        projectDir := "/w/d/p".toList, table := 0, owns := true },
      { type := "ClCompile".toList, identity := "../..\\dx/c.cpp".toList,
        projectDir := "/w/d/p".toList, table := 0, owns := true }] }]

/-- The first file is relative, and the other one is not. -/
theorem commands_denote_siblingBuild :
    ∃ first second, siblingBuild.commands = [first, second] ∧
      normalizeText (joinText first.directory first.file) = "/w/d/a/b.cpp".toList ∧
      first.file.head? ≠ some separator ∧
      normalizeText (joinText second.directory second.file) = "/w/dx/c.cpp".toList ∧
      ¬ second.file.head? ≠ some separator := by
  have hbase : siblingBuild.root.IsBase := ⟨by decide, by decide, by decide, by decide⟩
  rcases commands_denote siblingBuild hbase with _ | ⟨hfirst, _ | ⟨hsecond, _ | _⟩⟩
  have hfirst := hfirst rfl (by decide)
  have hsecond := hsecond rfl (by decide)
  refine ⟨_, _, rfl, hfirst.denotes, hfirst.relative.mpr (by decide), hsecond.denotes, ?_⟩
  rw [hsecond.relative]
  decide

end Build

end CompilationDatabase
