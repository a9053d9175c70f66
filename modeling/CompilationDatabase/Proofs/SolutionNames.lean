import CompilationDatabase.Proofs.LowerCase
import CompilationDatabase.Proofs.SingleProjects

/-!
# Solution names — what a search takes for a solution, and what is loaded as one

A directory is searched for names that end with `.sln` as it is written. A path is loaded as a solution
if its suffix is `.sln` in some letter case, and a name that consists of a suffix alone has none;
`Target.isSolution_iff` says this of the characters of the name.

The search asks a directory for its files and the load asks for one path in it. That both see the same
file is `FileTree.mem_fileNames`: the path of a name in a directory is followed through where the path
of the directory leads (`resolve_directory`). So `Build.counted_iff_loaded` is about names only.
-/

namespace CompilationDatabase

open CompilationDatabase.Path

/-! ## Suffixes -/

/-- A path has the suffix that its name ends with from the last dot on, if there is something before it
    and after it. -/
theorem Path.suffix_eq_cons_iff {p : Path} {extension : Text} :
    p.suffix = '.' :: extension ↔
      extension ≠ [] ∧ '.' ∉ extension ∧ ∃ stem, stem ≠ [] ∧ p.name = stem ++ '.' :: extension := by
  constructor
  · intro h
    obtain ⟨before, after, hsplit⟩ : ∃ before after, p.name.splitLast '.' = (before, after) :=
      ⟨_, _, rfl⟩
    obtain ⟨hname, hfree, hdot⟩ := Text.splitLast_eq_iff.mp hsplit
    rw [Path.suffix, splitName, hsplit] at h
    split at h
    · exact nomatch h
    · exact nomatch h
    · exact nomatch h
    · next hnil hone hafter heq =>
      obtain ⟨rfl, rfl⟩ := Prod.mk.inj heq
      obtain rfl : after = extension := (List.cons.inj h).2
      obtain ⟨stem, rfl⟩ := List.getLast?_eq_some_iff.mp (hdot.resolve_left hnil)
      refine ⟨hafter, hfree, stem, ?_, by simpa using hname⟩
      rintro rfl
      exact hone '.' rfl
  · rintro ⟨hextension, hfree, stem, hstem, hname⟩
    have hsplit : p.name.splitLast '.' = (stem ++ ['.'], extension) :=
      Text.splitLast_eq_iff.mpr ⟨by simpa using hname, hfree, Or.inr (by simp)⟩
    obtain ⟨c, stem, rfl⟩ := List.exists_cons_of_ne_nil hstem
    obtain ⟨d, extension, rfl⟩ := List.exists_cons_of_ne_nil hextension
    rw [Path.suffix, splitName, hsplit]
    cases stem <;> rfl

namespace Target

/-- Whether a name spells the suffix of solutions at its end, in any letter case of ASCII, and has
    something before it. -/
def SpellsSuffix (name : Text) : Prop :=
  ∃ stem suffix, stem ≠ [] ∧ name = stem ++ suffix ∧ suffix.map Char.toLower = solutionSuffix

/-- A file is loaded as a solution if its name spells the suffix. -/
theorem isSolution_iff {path : Path} : isSolution path = true ↔ SpellsSuffix path.name := by
  have hword : solutionSuffix.all fun c => c.toNat < 128 ∧ c ∉ Text.lowerStrays := by decide
  rw [isSolution, beq_iff_eq, Text.lower_eq_iff hword]
  constructor
  · intro h
    cases hsuffix : path.suffix with
    | nil =>
        rw [hsuffix] at h
        exact nomatch h
    | cons c extension =>
        rw [hsuffix] at h
        obtain rfl := Text.eq_of_toLower_eq (List.cons.inj h).1 rfl
        obtain ⟨-, -, stem, hstem, hname⟩ := Path.suffix_eq_cons_iff.mp hsuffix
        exact ⟨stem, '.' :: extension, hstem, hname, h⟩
  · rintro ⟨stem, _ | ⟨c, extension⟩, hstem, hname, h⟩
    · exact nomatch h
    · obtain rfl := Text.eq_of_toLower_eq (List.cons.inj h).1 rfl
      have hrest : extension.map Char.toLower = "sln".toList := (List.cons.inj h).2
      have hsuffix : path.suffix = '.' :: extension := by
        refine Path.suffix_eq_cons_iff.mpr ⟨?_, ?_, stem, hstem, hname⟩
        · rintro rfl
          exact nomatch hrest
        · intro hdot
          have hmem : '.' ∈ extension.map Char.toLower := List.mem_map.mpr ⟨'.', hdot, rfl⟩
          rw [hrest] at hmem
          exact absurd hmem (by decide)
      rw [hsuffix]
      exact h

/-- What is searched for is loaded, but for the suffix alone. -/
theorem spellsSuffix_of_isSolutionName {name : Text} (h : isSolutionName name = true)
    (hname : name ≠ solutionSuffix) : SpellsSuffix name := by
  obtain ⟨stem, rfl⟩ := List.isSuffixOf_iff_suffix.mp h
  exact ⟨stem, solutionSuffix, fun hstem => hname (by rw [hstem]; rfl), rfl, by decide⟩

theorem not_spellsSuffix_suffix : ¬ SpellsSuffix solutionSuffix := by
  rintro ⟨stem, suffix, hstem, hname, hsuffix⟩
  have hlength := congrArg List.length hname
  have hlength' := congrArg List.length hsuffix
  rw [List.length_append] at hlength
  rw [List.length_map] at hlength'
  have hpos := List.length_pos_iff.mpr hstem
  omega

/-- A name with the suffix of projects does not spell that of solutions. -/
theorem not_spellsSuffix_of_isProjectName {name : Text} (h : isProjectName name = true) :
    ¬ SpellsSuffix name := by
  have hlast : name.getLast? = some 'j' := by
    rcases Bool.or_eq_true_iff.mp h with hsuffix | hmatch
    · obtain ⟨stem, rfl⟩ := List.isSuffixOf_iff_suffix.mp hsuffix
      rw [List.getLast?_append]
      rfl
    · rw [List.getLast?_eq_head?_reverse]
      cases hbegins : "jorps".toList.isPrefixOf? name.reverse with
      | none =>
          rw [hbegins] at hmatch
          exact nomatch hmatch
      | some rest =>
          rw [← List.isPrefixOf?_eq_some_iff_append_eq.mp hbegins]
          rfl
  rintro ⟨stem, suffix, -, rfl, hsuffix⟩
  have hmap : ((stem ++ suffix).map Char.toLower).getLast? = some 'n' := by
    rw [List.map_append, hsuffix, List.getLast?_append]
    rfl
  rw [List.getLast?_map, hlast] at hmap
  exact absurd hmap (by decide)

end Target

/-! ## Files of a directory -/

/-- The text of a path in a directory goes on after that of the directory, of which a separator at the
    end may be the same; the directory whose text is a dot is left out. -/
theorem Path.text_child_cases (given name : Text) :
    ((ofText given).text = ['.'] ∧ ((ofText given).child name).text = name) ∨
    ∃ before ending, (ofText given).text = before ++ ending ∧
      ((ofText given).child name).text = before ++ separator :: name ∧
      (ending = [separator] ∨ ending = [] ∧ before ≠ []) := by
  have hchild : ((ofText given).child name).text
      = rootText given ++ Text.join separator (steps given ++ [name]) := by
    rw [text, if_neg (by simp [child])]
    rfl
  have htext : (ofText given).text
      = if (rootText given).isEmpty && (steps given).isEmpty then ['.']
        else rootText given ++ Text.join separator (steps given) := rfl
  rw [hchild, htext]
  cases hsteps : steps given with
  | nil =>
      have hroot : rootText given = [] ∨ ∃ before, rootText given = before ++ [separator] := by
        rw [rootText]
        split
        · exact Or.inl rfl
        · exact Or.inr ⟨[separator], rfl⟩
        · exact Or.inr ⟨[], rfl⟩
      rcases hroot with hroot | ⟨before, hroot⟩
      · left
        simp [hroot, Text.join]
      · right
        refine ⟨before, [separator], ?_, ?_, Or.inl rfl⟩ <;> simp [hroot, Text.join]
  | cons part parts =>
      right
      have hjoin : Text.join separator (part :: parts) ≠ [] := by
        intro hnil
        have hcomponents : ∀ c ∈ part :: parts, IsComponent c := by
          rw [← hsteps]
          exact fun _ => of_mem_steps
        have hagain := steps_join hcomponents
        rw [hnil] at hagain
        cases hagain
      refine ⟨rootText given ++ Text.join separator (part :: parts), [], by simp, ?_,
        Or.inr ⟨rfl, fun h => hjoin (List.append_eq_nil_iff.mp h).2⟩⟩
      rw [Text.join_append separator (List.cons_ne_nil _ _) (List.cons_ne_nil _ _)]
      simp [Text.join]

namespace FileTree

variable {files : FileTree} {given name : Text} {here there : List Text}

theorem follow_stay {entries : List (Text × Node)} {stay : Text}
    (hfind : files.root.find? here = some (.directory entries)) (hstay : stay = [] ∨ stay = ['.']) :
    files.follow here [stay] = .ok here := by
  rw [follow, hfind]
  dsimp only
  rw [if_pos hstay]
  rfl

/-- What is in a directory is found from where the path of the directory leads. -/
theorem resolve_directory (hname : IsReal name)
    (h : files.resolve ((Path.ofText given).child name).text = .ok there) :
    ∃ here, files.resolve (Path.ofText given).text = .ok here ∧
      files.follow here [name] = .ok there := by
  have hpieces : name.pieces separator = [name] := Text.pieces_of_not_mem hname.2.2
  rcases text_child_cases given name with ⟨hdot, hchild⟩ | ⟨before, ending, htext, hchild, hending⟩
  · rw [hchild] at h
    obtain ⟨-, -, -, hfollow⟩ := resolve_eq_ok_iff.mp h
    have hrelative : name.head? ≠ some separator := fun h => hname.2.2 (List.mem_of_mem_head? h)
    rw [start, if_neg hrelative, hpieces] at hfollow
    obtain ⟨entries, hfind⟩ := directory_of_follow hfollow
    refine ⟨files.current, ?_, hfollow⟩
    rw [hdot]
    exact resolve_eq_ok_iff.mpr ⟨by decide, by decide, by decide, follow_stay hfind (Or.inr rfl)⟩
  · rw [hchild] at h
    obtain ⟨hnull, -, hlong, hfollow⟩ := resolve_eq_ok_iff.mp h
    have hstart : files.start (before ++ separator :: name) = files.start (before ++ ending) := by
      cases before with
      | nil =>
          rcases hending with rfl | ⟨-, hbefore⟩
          · rfl
          · exact absurd rfl hbefore
      | cons c before => rfl
    rw [Text.pieces_append, hpieces, follow_append, hstart] at hfollow
    obtain ⟨here, hhere, hbelow⟩ := ok_of_bind hfollow
    obtain ⟨entries, hfind⟩ := directory_of_follow hbelow
    refine ⟨here, ?_, hbelow⟩
    have hbegins : before ++ ending <+: before ++ separator :: name := by
      rcases hending with rfl | ⟨rfl, -⟩
      · exact ⟨name, by simp⟩
      · exact ⟨separator :: name, by simp⟩
    obtain ⟨rest, hrest⟩ := hbegins
    rw [htext]
    refine resolve_eq_ok_iff.mpr ⟨?_, ?_, ?_, ?_⟩
    · intro hmem
      exact hnull (hrest ▸ List.mem_append_left rest hmem)
    · rcases hending with rfl | ⟨rfl, hbefore⟩
      · simp
      · simpa using hbefore
    · refine Nat.le_trans ?_ hlong
      rw [← hrest]
      exact ((List.prefix_append _ rest).flatMap Text.Utf8.encodeChar).length_le
    · rcases hending with rfl | ⟨rfl, -⟩
      · rw [Text.pieces_append, follow_append, hhere]
        exact follow_stay hfind (Or.inl rfl)
      · rw [List.append_nil] at hhere ⊢
        exact hhere

/-- A file in a directory is among those that the directory lists. -/
theorem mem_fileNames (hname : IsReal name)
    (h : files.isFile ((Path.ofText given).child name).text = .ok true) :
    ∃ names, files.fileNames (Path.ofText given).text = .ok names ∧ name ∈ names := by
  obtain ⟨f, hfile⟩ := isFile_iff.mp h
  obtain ⟨there, hresolve, hfind⟩ := node_eq_ok_iff.mp hfile
  obtain ⟨here, hhere, hfollow⟩ := resolve_directory hname hresolve
  obtain rfl : there = here ++ [name] :=
    eq_append_of_follow (List.forall_mem_singleton.mpr hname) hfollow
  obtain ⟨entries, hdirectory⟩ := directory_of_follow hfollow
  have hnode : files.node (Path.ofText given).text = .ok (.directory entries) :=
    node_eq_ok_iff.mpr ⟨here, hhere, hdirectory⟩
  have hlookup : entries.lookup name = some (.file f) := by
    rw [Node.find?_append, hdirectory] at hfind
    simpa [Node.find?, Node.child?] using hfind
  have hkind : files.isDirectory (Path.ofText given).text = .ok true := by
    show isKind _ _ _ = _
    rw [isKind, hnode]
  simp only [fileNames, hkind, hnode, bind, Except.bind, if_true]
  exact ⟨_, rfl, List.mem_filterMap.mpr ⟨(name, .file f), Text.mem_of_lookup hlookup, rfl⟩⟩

end FileTree

theorem Path.name_absolute_child (files : FileTree) (directory : Path) (name : Text) :
    (files.absolute (directory.child name)).name = name := by
  rw [FileTree.absolute, join]
  split
  · exact name_child directory name
  · rw [Path.name, child, ← List.append_assoc, List.getLastD_concat]

namespace Target

variable {files : FileTree}

/-! ## Searching a directory -/

/-- Whether a file is among the solutions that a search finds in a directory. -/
def IsCounted (files : FileTree) (directory : Path) (name : Text) : Prop :=
  ∃ names, files.fileNames directory.text = .ok names ∧ name ∈ names.filter isSolutionName

theorem isCounted_iff {given name : Text} (hname : IsReal name)
    (h : files.isFile ((Path.ofText given).child name).text = .ok true) :
    IsCounted files (.ofText given) name ↔ isSolutionName name = true := by
  constructor
  · rintro ⟨names, -, hmem⟩
    exact (List.mem_filter.mp hmem).2
  · intro hsolution
    obtain ⟨names, hnames, hmem⟩ := FileTree.mem_fileNames hname h
    exact ⟨names, hnames, List.mem_filter.mpr ⟨hmem, hsolution⟩⟩

theorem unique?_eq_ok {several : Cause} {location : Text} {names : List Text} {found : Option Text}
    (h : unique? several location names = .ok found) : names = found.toList := by
  rw [unique?.eq_def] at h
  split at h
  · rw [← Except.ok.inj h]
    rfl
  · rw [← Except.ok.inj h]
    rfl
  · exact nomatch h

/-- A search finds the only solution of a directory, or the only project of one without solutions. -/
theorem find_eq_ok {directory found : Path} {location : Text}
    (h : find files directory location = .ok found) :
    ∃ names name, files.fileNames directory.text = .ok names ∧ found = directory.child name ∧
      (names.filter isSolutionName = [name] ∨
        names.filter isSolutionName = [] ∧ names.filter isProjectName = [name]) := by
  obtain ⟨names, hread, h⟩ := ok_of_bind h
  have hnames : files.fileNames directory.text = .ok names := by
    cases hlist : files.fileNames directory.text with
    | error e =>
        rw [hlist] at hread
        exact nomatch hread
    | ok names' =>
        rw [hlist] at hread
        exact congrArg Except.ok (Except.ok.inj hread)
  obtain ⟨solution?, hsolution, h⟩ := ok_of_bind h
  cases solution? with
  | some name =>
      exact ⟨names, name, hnames, (Except.ok.inj h).symm, Or.inl (unique?_eq_ok hsolution)⟩
  | none =>
      obtain ⟨project?, hproject, h⟩ := ok_of_bind h
      cases project? with
      | some name =>
          exact ⟨names, name, hnames, (Except.ok.inj h).symm,
            Or.inr ⟨unique?_eq_ok hsolution, unique?_eq_ok hproject⟩⟩
      | none => exact nomatch h

/-! ## Loading what was found -/

/-- Whether the file that a path leads to is loaded as a solution. -/
def IsLoadedAsSolution (files : FileTree) (path : Path) : Prop :=
  ∃ target, resolve files path = .ok target ∧ isSolution target = true

theorem isLoadedAsSolution_iff {directory : Path} {name : Text}
    (h : files.isFile (directory.child name).text = .ok true) :
    IsLoadedAsSolution files (directory.child name) ↔ SpellsSuffix name := by
  rw [← name_absolute_child files directory name, ← isSolution_iff]
  constructor
  · rintro ⟨target, htarget, hsolution⟩
    rw [name_absolute_child, resolve_of_isFile h] at htarget
    obtain rfl := Except.ok.inj htarget
    exact hsolution
  · intro hsolution
    refine ⟨_, ?_, hsolution⟩
    rw [name_absolute_child]
    exact resolve_of_isFile h

/-- Whether a search and a load take a name for that of different things: a name that is only the suffix
    is counted and loaded as a project, and one that spells the suffix in another letter case is not
    counted and loaded as a solution. -/
def IsMisjudged (name : Text) : Prop :=
  name = solutionSuffix ∨ SpellsSuffix name ∧ isSolutionName name = false

theorem not_isMisjudged_iff {name : Text} :
    ¬ IsMisjudged name ↔ (isSolutionName name = true ↔ SpellsSuffix name) := by
  constructor
  · intro h
    refine ⟨fun hsolution => ?_, fun hspells => ?_⟩
    · exact spellsSuffix_of_isSolutionName hsolution fun hname => h (Or.inl hname)
    · by_contra hsolution
      exact h (Or.inr ⟨hspells, Bool.eq_false_iff.mpr hsolution⟩)
  · rintro h (rfl | ⟨hspells, hsolution⟩)
    · exact not_spellsSuffix_suffix (h.mp (by decide))
    · rw [h.mpr hspells] at hsolution
      exact nomatch hsolution

end Target

namespace Build

variable {m : Matching}

/-- What comes of loading a target as a solution. -/
def fromSolution (files : FileTree) (target : Path) (macros : NameTable m) (told : List Notice) :
    Except Fault (Build m) :=
  let start := macros.insert directoryMacro (target.parent.text ++ [separator])
  (Solution.outcome ((Solution.load files target).run ⟨start, told⟩)).map fun (projects, left) =>
    ⟨target, left, projects.map (·.convertExternalIncludes)⟩

/-- What comes of loading a target as a project. -/
def fromProject (files : FileTree) (target : Path) (macros : NameTable m) : Except Fault (Build m) :=
  let start := macros.insert directoryMacro (target.parent.text ++ [separator])
  let named := start.insert Project.nameMacro target.stem
  (Project.loaded files target named).map fun project =>
    ⟨target, named, [project.convertExternalIncludes]⟩

theorem outcome_load_eq {files : FileTree} {path target : Path}
    (h : Target.resolve files path = .ok target) (macros : NameTable m) (told : List Notice) :
    Loading.outcome ((load files path (.ok macros)).run told)
      = if Target.isSolution target then fromSolution files target macros told
        else fromProject files target macros := by
  rw [outcome_load h]
  let start := macros.insert directoryMacro (target.parent.text ++ [separator])
  show (Loading.outcome ((loadProjects files target start).run told) >>= _) = _
  split
  · next hsolution =>
    rw [outcome_loadProjects_of_solution hsolution]
    show _ = (Solution.outcome ((Solution.load files target).run ⟨start, told⟩)).map _
    cases Solution.outcome ((Solution.load files target).run ⟨start, told⟩) <;> rfl
  · next hproject =>
    rw [outcome_loadProjects_of_project (Bool.eq_false_iff.mpr hproject)]
    show _ = (Project.loaded files target (start.insert Project.nameMacro target.stem)).map _
    cases Project.loaded files target (start.insert Project.nameMacro target.stem) <;> rfl

/-- **A search and a load agree on solutions, but for two kinds of names.** Of a file in a directory: a
    search of the directory counts it among the solutions exactly if it is loaded as a solution when
    it is given, unless its name is `.sln`, which is counted and loaded as a project, or spells the suffix
    in another letter case, which is not counted and loaded as a solution. So the only solution that a
    search finds is loaded as one unless it is called `.sln`; and where a search finds a project, this
    is loaded as one, and a file that would be loaded as a solution is passed over only if it spells
    its suffix in another letter case. -/
theorem counted_iff_loaded (files : FileTree) (given : Text) :
    (∀ name, IsReal name → files.isFile ((Path.ofText given).child name).text = .ok true →
      ((Target.IsCounted files (.ofText given) name
          ↔ Target.IsLoadedAsSolution files ((Path.ofText given).child name))
        ↔ ¬ Target.IsMisjudged name)) ∧
    (∀ location found, Target.find files (.ofText given) location = .ok found →
      ∃ name, found = (Path.ofText given).child name ∧
        (Target.IsCounted files (.ofText given) name ∧
            (Target.isSolution found = true ↔ name ≠ Target.solutionSuffix) ∨
          Target.isProjectName name = true ∧ Target.isSolution found = false ∧
            ∀ other, IsReal other →
              files.isFile ((Path.ofText given).child other).text = .ok true →
              Target.IsLoadedAsSolution files ((Path.ofText given).child other) →
              Target.SpellsSuffix other ∧ Target.isSolutionName other = false)) ∧
    ∀ path target, Target.resolve files path = .ok target →
      ∀ {m : Matching} (macros : NameTable m) (told : List Notice),
        Loading.outcome ((load files path (.ok macros)).run told)
          = if Target.isSolution target then fromSolution files target macros told
            else fromProject files target macros := by
  refine ⟨fun name hname hfile => ?_, fun location found hfind => ?_,
    fun path target htarget _ macros told => outcome_load_eq htarget macros told⟩
  · rw [Target.isCounted_iff hname hfile, Target.isLoadedAsSolution_iff hfile,
      Target.not_isMisjudged_iff]
  · obtain ⟨names, name, hnames, rfl, hone⟩ := Target.find_eq_ok hfind
    refine ⟨name, rfl, ?_⟩
    rw [Target.isSolution_iff, name_child]
    rcases hone with hsolution | ⟨hnone, hproject⟩
    · left
      have hmem : name ∈ names.filter Target.isSolutionName :=
        hsolution ▸ List.mem_singleton_self name
      refine ⟨⟨names, hnames, hmem⟩, ?_, ?_⟩
      · rintro hspells rfl
        exact Target.not_spellsSuffix_suffix hspells
      · exact Target.spellsSuffix_of_isSolutionName (List.mem_filter.mp hmem).2
    · right
      have hmem : name ∈ names.filter Target.isProjectName :=
        hproject ▸ List.mem_singleton_self name
      have hkind := (List.mem_filter.mp hmem).2
      refine ⟨hkind, ?_, fun other hother hfile hloaded => ?_⟩
      · rw [Bool.eq_false_iff, ne_eq, Target.isSolution_iff, name_child]
        exact Target.not_spellsSuffix_of_isProjectName hkind
      · refine ⟨(Target.isLoadedAsSolution_iff hfile).mp hloaded, ?_⟩
        obtain ⟨names', hnames', hlisted⟩ := FileTree.mem_fileNames hother hfile
        obtain rfl := Except.ok.inj (hnames.symm.trans hnames')
        exact Bool.eq_false_iff.mpr fun hsolution =>
          List.not_mem_nil (hnone ▸ List.mem_filter.mpr ⟨hlisted, hsolution⟩)

/-- A current directory with a solution of some name, beside a project. -/
def besideProjectTree (solution : Text) : FileTree :=
  { root := .directory [(solution, .file { content := [] }),
      ("p.vcxproj".toList, .file { content := [] })]
    current := [] }

/-- A search of the current directory finds a solution whose name has several dots, and it is loaded
    as one. -/
theorem counted_iff_loaded_severalDots :
    let files := besideProjectTree "a.SLN.sln".toList
    Target.find files (.ofText []) ['.'] = .ok ⟨[], ["a.SLN.sln".toList]⟩ ∧
      Target.IsLoadedAsSolution files ⟨[], ["a.SLN.sln".toList]⟩ := by
  intro files
  have hname : IsReal "a.SLN.sln".toList := ⟨by decide, by decide, by decide⟩
  have hfile : files.isFile ((Path.ofText []).child "a.SLN.sln".toList).text = .ok true := by
    decide +kernel
  obtain ⟨hagree, -, -⟩ := counted_iff_loaded files []
  have hcounted : Target.IsCounted files (.ofText []) "a.SLN.sln".toList :=
    ⟨_, rfl, by decide⟩
  have hplain : ¬ Target.IsMisjudged "a.SLN.sln".toList := by
    rintro (hsuffix | ⟨-, hother⟩)
    · exact absurd hsuffix (by decide)
    · exact absurd hother (by decide)
  exact ⟨rfl, ((hagree _ hname hfile).mpr hplain).mp hcounted⟩

/-- A solution with an upper-case suffix is passed over in favour of a project, and a file that is only
    called `.sln` is found as the only solution and loaded as a project. -/
theorem misjudged_names :
    (Target.find (besideProjectTree "A.SLN".toList) (.ofText []) ['.']
        = .ok ⟨[], ["p.vcxproj".toList]⟩ ∧
      Target.IsLoadedAsSolution (besideProjectTree "A.SLN".toList) ⟨[], ["A.SLN".toList]⟩) ∧
    Target.find (besideProjectTree ".sln".toList) (.ofText []) ['.'] = .ok ⟨[], [".sln".toList]⟩ ∧
      ¬ Target.IsLoadedAsSolution (besideProjectTree ".sln".toList) ⟨[], [".sln".toList]⟩ := by
  refine ⟨⟨rfl, ⟨['/'], ["A.SLN".toList]⟩, rfl, by decide⟩, rfl, ?_⟩
  rintro ⟨target, htarget, hsolution⟩
  have hresolved : Target.resolve (besideProjectTree ".sln".toList) ⟨[], [".sln".toList]⟩
      = .ok ⟨['/'], [".sln".toList]⟩ := rfl
  rw [hresolved] at htarget
  obtain rfl := Except.ok.inj htarget
  exact absurd hsolution (by decide)

end Build

end CompilationDatabase
