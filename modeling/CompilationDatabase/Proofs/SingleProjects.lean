import CompilationDatabase.Build.Basic
import CompilationDatabase.Proofs.PrintedSolutions
import CompilationDatabase.Proofs.RelativeFiles

/-!
# Single projects — a project is loaded through a solution as it is by itself

A build is loaded from a solution or from a project file. `Build.load_through_solution` says that it does
not matter which of the two it is if the solution stands beside the project, lists this project and
nothing else but folders, and calls it what its file is called.

Either way the macros are those from before, with the directory and then the name of the project
(`outcome_loadProjects_of_project`, `ListsOnly.outcome_load`), so both loads come to the same contents
(`Build.single`). By itself, a project has the path that was given, from the root of all files. Through a
solution, it has the path that is listed, taken from the directory of the solution and normalised. The
two are the same in a directory that is normal (`ListsOnly.projectPath_eq`).
-/

namespace CompilationDatabase

/-! ## Files in a directory -/

/-- Whether a path leads to a name in a directory. -/
structure FileTree.LeadsTo (files : FileTree) (path : Text) (directory : Path) (name : Text) : Prop where
  absolute : files.absolute (.ofText path) = directory.child name
  real     : Path.IsReal name

theorem Path.parent_child (directory : Path) (name : Text) : (directory.child name).parent = directory := by
  rw [parent, child, List.dropLast_concat]

theorem Path.name_child (directory : Path) (name : Text) : (directory.child name).name = name := by
  rw [Path.name, child, List.getLastD_concat]

theorem Path.real_child {directory : Path} {name : Text} (h : ∀ part ∈ directory.parts, IsReal part)
    (hname : IsReal name) : ∀ part ∈ (directory.child name).parts, IsReal part :=
  List.forall_mem_append.mpr ⟨h, List.forall_mem_singleton.mpr hname⟩

/-- A path to a file is taken as it is, from the root of all files. -/
theorem Target.resolve_of_isFile {files : FileTree} {path : Path}
    (h : files.isFile path.text = .ok true) : resolve files path = .ok (files.absolute path) := by
  rw [resolve, FileTree.isDirectory_of_isFile h]
  show (do
      if ← (files.isFile path.text).mapError Fault.file then return files.absolute path
      else throw (.failed .noTarget (some path.text)) : Except Fault Path) = _
  rw [h]
  rfl

/-- A build is loaded from the file that a path leads to. -/
theorem FileTree.LeadsTo.resolve_eq {files : FileTree} {path : Text} {directory : Path} {name : Text}
    (h : files.LeadsTo path directory name)
    (hcurrent : files.isDirectory files.currentPath.text = .ok true)
    (hdirectory : ∀ part ∈ directory.parts, Path.IsReal part)
    (hfile : files.isFile (directory.child name).text = .ok true) :
    Target.resolve files (.ofText path) = .ok (directory.child name) := by
  have hgiven : files.isFile (Path.ofText path).text = .ok true := by
    rw [← h.absolute] at hfile
    refine isFile_of_absolute hcurrent ?_ hfile
    rw [h.absolute]
    exact Path.real_child hdirectory h.real
  rw [Target.resolve_of_isFile hgiven, h.absolute]

/-! ## Solutions with one project -/

namespace Solution

open CompilationDatabase.Path

variable {m : Matching} {files : FileTree} {solution project : Path}

/-- Whether a solution lists a project and nothing else but folders: under the name that its file has
    without the suffix, and with a path that denotes what the name of the file does, in whatever
    spelling. -/
structure ListsOnly (files : FileTree) (solution project : Path) (l : SolutionLine) : Prop where
  listed  : ∃ ls, lines files solution.text = .ok ls ∧
    (ls.filterMap SolutionLine.ofLine?).filter (·.kind ≠ .folder) = [l]
  kind    : l.kind = .project
  name    : l.name = project.stem
  denotes : normalizeText (joinText solution.parent.text (native l.path))
    = normalizeText (joinText solution.parent.text project.name)

theorem ListsOnly.isFile {l : SolutionLine} (h : ListsOnly files solution project l) :
    files.isFile solution.text = .ok true := by
  obtain ⟨ls, hls, -⟩ := h.listed
  rw [lines] at hls
  cases hread : files.read solution.text with
  | error e =>
      rw [hread] at hls
      cases hls
  | ok octets => exact FileTree.isFile_of_read hread

/-- A file is denoted by its name, taken from a directory that is normal. -/
theorem normalizeText_name {directory : Path} {name : Text} (hroot : IsRoot directory.root)
    (hparts : ∀ part ∈ directory.parts, IsReal part) (hname : IsReal name) :
    normalizeText (joinText directory.text name) = (directory.child name).text := by
  have hcomponents := isComponent_of_real hparts
  have hchild := real_child hparts hname
  have htext : (directory.child name).text
      = directory.root ++ Text.join separator (directory.child name).parts :=
    text_of_isRoot (p := directory.child name) hroot
  have hrelative : name.head? ≠ some separator := fun h => hname.2.2 (List.mem_of_mem_head? h)
  obtain ⟨hroot', hsteps'⟩ := Path.mk.inj
    (ofText_text (p := directory.child name) hroot (isComponent_of_real hchild))
  have hsteps : steps directory.text = directory.parts :=
    congrArg Path.parts (ofText_text hroot hcomponents)
  calc normalizeText (joinText directory.text name)
      = normalizeText (directory.child name).text := by
        apply normalizeText_congr
        · rw [rootText_joinText hroot hcomponents hrelative, hroot']
        · rw [steps_joinText hrelative, hsteps, hname.isComponent.steps_eq, hsteps']
    _ = (directory.child name).text := by
        rw [htext]
        exact normalizeText_of_real hroot hchild

/-- The listed path is taken from the directory of the solution, and leads to the project. -/
theorem ListsOnly.projectPath_eq {directory : Path} {name : Text} {l : SolutionLine}
    (h : ListsOnly files solution (directory.child name) l) (hparent : solution.parent = directory)
    (hroot : IsRoot directory.root) (hparts : ∀ part ∈ directory.parts, IsReal part)
    (hname : IsReal name) : projectPath solution l = directory.child name := by
  subst hparent
  have hchild := isComponent_of_real (real_child hparts hname)
  rw [projectPath, normalized_join hroot (isComponent_of_real hparts), h.denotes, name_child,
    normalizeText_name hroot hparts hname, ofText_text (p := solution.parent.child name) hroot hchild]

/-- A solution lists one project if it is written with one row that lists something else than a folder:
    the name of the file without the suffix, and the name of the file, in which there is no
    backslash. -/
theorem listsOnly_of_written {f : SolutionFile} {l : SolutionLine}
    (hread : files.read solution.text = .ok f.octets)
    (hlisted : f.listed.filter (·.kind ≠ .folder) = [l]) (hkind : l.kind = .project)
    (hstem : l.name = project.stem) (hpath : l.path = project.name) (hslashes : '\\' ∉ project.name) :
    ListsOnly files solution project l where
  listed := by
    refine ⟨Text.lines f.text, ?_, by rw [f.filterMap_lines, hlisted]⟩
    rw [lines, hread]
    dsimp only
    rw [f.decodeMarked_octets]
  kind := hkind
  name := hstem
  denotes := by rw [hpath, native_of_not_mem hslashes]

section One

variable {ls : List SolutionLine} {l : SolutionLine} (hlisted : ls.filter (·.kind ≠ .folder) = [l])
  (hkind : l.kind = .project)
include hlisted hkind

theorem filter_project_of_one : ls.filter (·.kind = .project) = [l] := by
  have hkinds : ls.filter (·.kind = .project)
      = (ls.filter (·.kind ≠ .folder)).filter (·.kind = .project) := by
    rw [List.filter_filter]
    refine List.filter_congr fun l' _ => ?_
    cases hkind' : l'.kind <;> rfl
  rw [hkinds, hlisted, List.filter_cons_of_pos (by simpa using hkind), List.filter_nil]

theorem forM_inspect_of_one (hfile : files.isFile (projectPath solution l).text = .ok true) :
    ls.forM (inspect files solution) = .ok () := by
  rw [forM_eq_ok_iff]
  intro l' hl'
  rw [inspect]
  by_cases hfolder : l'.kind = .folder
  · rw [hfolder]
  · have hmem : l' ∈ [l] := hlisted ▸ List.mem_filter.mpr ⟨hl', by simpa using hfolder⟩
    obtain rfl := List.mem_singleton.mp hmem
    simp only [hkind, hfile]

end One

/-- A solution that lists one project loads it as it is alone, and leaves its name in the macros. -/
theorem ListsOnly.outcome_load {l : SolutionLine} (h : ListsOnly files solution project l)
    (habsolute : files.absolute solution = solution) (hpath : projectPath solution l = project)
    (hfile : files.isFile project.text = .ok true) (s : Session m) :
    outcome ((load files solution).run s)
      = (Project.loaded files project (s.macros.insert Project.nameMacro project.stem)).map
          fun model => ([model], s.macros.insert Project.nameMacro project.stem) := by
  obtain ⟨ls, hls, hlisted⟩ := h.listed
  have hprojects : projects solution ls = [⟨project.stem, project⟩] := by
    rw [projects, filter_project_of_one hlisted h.kind, List.map_singleton, listedProject, h.name, hpath]
  rw [Solution.outcome_load, habsolute, hls]
  show ((do
      (ls.filterMap SolutionLine.ofLine?).forM (inspect files solution)
      let models ← (projects solution ls).mapM (alone files s.macros)
      return (models, named s.macros (projects solution ls)))) = _
  rw [forM_inspect_of_one hlisted h.kind (hpath ▸ hfile), hprojects, List.mapM_cons, List.mapM_nil]
  show _ = (alone files s.macros ⟨project.stem, project⟩).map _
  cases alone files s.macros ⟨project.stem, project⟩ <;> rfl

end Solution

/-! ## Builds -/

namespace Build

open CompilationDatabase.Path

variable {m : Matching} {files : FileTree} {target : Path}

theorem outcome_loadProjects_of_solution (h : Target.isSolution target = true) (macros : NameTable m)
    (told : List Notice) :
    Loading.outcome ((loadProjects files target macros).run told)
      = (Solution.outcome ((Solution.load files target).run ⟨macros, told⟩)).map
          fun left => ⟨target, left.2, left.1⟩ := by
  rw [loadProjects, EStateM.run_bind, EStateM.run_get]
  dsimp only
  rw [if_pos h]
  cases (Solution.load files target).run (⟨macros, told⟩ : Session m) <;> rfl

theorem outcome_loadProjects_of_project (h : Target.isSolution target = false) (macros : NameTable m)
    (told : List Notice) :
    Loading.outcome ((loadProjects files target macros).run told)
      = (Project.loaded files target (macros.insert Project.nameMacro target.stem)).map
          fun model => ⟨target, macros.insert Project.nameMacro target.stem, [model]⟩ := by
  rw [loadProjects, EStateM.run_bind, EStateM.run_get]
  dsimp only
  rw [if_neg (by simp [h]), ← Project.steady_load files target _ told, EStateM.run_bind]
  cases (Project.load files target (macros.insert Project.nameMacro target.stem)).run told <;> rfl

/-- What comes of a load whose file is found. -/
theorem outcome_load {path : Path} (h : Target.resolve files path = .ok target)
    (macros : Except Fault (NameTable m)) (told : List Notice) :
    Loading.outcome ((load files path macros).run told) = do
      let table ← macros
      let b ← Loading.outcome ((loadProjects files target
        (table.insert directoryMacro (target.parent.text ++ [separator]))).run told)
      return { b with projects := b.projects.map (·.convertExternalIncludes) } := by
  rw [load, h]
  cases macros with
  | error fault => rfl
  | ok table =>
      show _ = (do
        let b ← Loading.outcome ((loadProjects files target
          (table.insert directoryMacro (target.parent.text ++ [separator]))).run told)
        return { b with projects := b.projects.map (·.convertExternalIncludes) }
        : Except Fault (Build m))
      dsimp only
      rw [EStateM.run_bind]
      cases (loadProjects files target
        (table.insert directoryMacro (target.parent.text ++ [separator]))).run told <;> rfl

/-- What a build is made of: its root, its macros and its projects. -/
def contents (b : Build m) : Path × NameTable m × List Project := (b.root, b.macros, b.projects)

/-- The contents of a build with one project. The macros are those from before, with the directory and
    the name of the project. -/
def single (files : FileTree) (project : Path) (macros : Except Fault (NameTable m)) :
    Except Fault (Path × NameTable m × List Project) := do
  let table ← macros
  let table := table.insert directoryMacro (project.parent.text ++ [separator])
  let table := table.insert Project.nameMacro project.stem
  let model ← Project.loaded files project table
  return (project.parent, table, [model.convertExternalIncludes])

theorem contents_of_project {path : Path} (hresolve : Target.resolve files path = .ok target)
    (hkind : Target.isSolution target = false) (macros : Except Fault (NameTable m))
    (told : List Notice) :
    (Loading.outcome ((load files path macros).run told)).map contents = single files target macros := by
  rw [outcome_load hresolve]
  cases macros with
  | error fault => rfl
  | ok table =>
      let start := table.insert directoryMacro (target.parent.text ++ [separator])
      show (Loading.outcome ((loadProjects files target start).run told) >>= _).map contents
        = Project.loaded files target (start.insert Project.nameMacro target.stem) >>= _
      rw [outcome_loadProjects_of_project hkind]
      cases Project.loaded files target (start.insert Project.nameMacro target.stem) <;> rfl

theorem contents_of_solution {path project : Path} {l : SolutionLine}
    (hresolve : Target.resolve files path = .ok target) (hkind : Target.isSolution target = true)
    (habsolute : files.absolute target = target) (hparent : target.parent = project.parent)
    (hlists : Solution.ListsOnly files target project l)
    (hpath : Solution.projectPath target l = project) (hfile : files.isFile project.text = .ok true)
    (macros : Except Fault (NameTable m)) (told : List Notice) :
    (Loading.outcome ((load files path macros).run told)).map contents
      = single files project macros := by
  rw [outcome_load hresolve, hparent]
  cases macros with
  | error fault => rfl
  | ok table =>
      let start := table.insert directoryMacro (project.parent.text ++ [separator])
      show (Loading.outcome ((loadProjects files target start).run told) >>= _).map contents
        = Project.loaded files project (start.insert Project.nameMacro project.stem) >>= _
      rw [outcome_loadProjects_of_solution hkind, hlists.outcome_load habsolute hpath hfile]
      cases Project.loaded files project (start.insert Project.nameMacro project.stem) with
      | error fault => rfl
      | ok model =>
          refine congrArg Except.ok ?_
          simp only [contents, root, hparent]
          rfl

/-- **A project is loaded through a solution as it is by itself.** Let a project file and a solution stand
    in the same directory, whose absolute path is normal, and let the solution list this project
    and nothing else but folders. Whatever the macros to start from are, or the fault that is there
    instead of them: both loads end with the same fault, or with builds that have the same root, the
    same macros and the same project, with its include options converted. -/
theorem load_through_solution {directory : Path} {name solutionName project solution : Text}
    {l : SolutionLine} (hcurrent : files.isDirectory files.currentPath.text = .ok true)
    (hnormal : directory.normalized = directory) (hproject : files.LeadsTo project directory name)
    (hsolution : files.LeadsTo solution directory solutionName)
    (hfile : files.isFile (directory.child name).text = .ok true)
    (hkind : Target.isSolution (directory.child name) = false)
    (hkind' : Target.isSolution (directory.child solutionName) = true)
    (hlists : Solution.ListsOnly files (directory.child solutionName) (directory.child name) l)
    (macros : Except Fault (NameTable m)) (told told' : List Notice) :
    (Loading.outcome ((load files (.ofText solution) macros).run told)).map contents
      = (Loading.outcome ((load files (.ofText project) macros).run told')).map contents := by
  have hhead : directory.root.head? = some separator := by
    have habsolute : (files.absolute (.ofText project)).root.head? = some separator :=
      head?_root_join rfl project
    rwa [hproject.absolute] at habsolute
  obtain ⟨hroot, hparts⟩ := real_of_normalized hhead hnormal
  have hparent := parent_child directory solutionName
  have habsolute : files.absolute (directory.child solutionName) = directory.child solutionName := by
    rw [FileTree.absolute, join, if_pos]
    rcases hroot with h | h <;> simp [isAbsolute, child, h]
  have hpath : Solution.projectPath (directory.child solutionName) l = directory.child name :=
    hlists.projectPath_eq hparent hroot hparts hproject.real
  rw [contents_of_project (hproject.resolve_eq hcurrent hparts hfile) hkind,
    contents_of_solution (hsolution.resolve_eq hcurrent hparts hlists.isFile) hkind' habsolute
      (hparent.trans (parent_child directory name).symm) hlists hpath hfile]

/-- What the solution below lists besides a folder. -/
def besideFolderLine : SolutionLine :=
  ⟨SolutionLine.projectGuid.map Char.toLower, "a.b".toList, "a.b.vcxproj".toList⟩

/-- A solution with a folder and a project. -/
def besideFolder : SolutionFile :=
  let blank : { t : Text // SolutionLine.AreBlanks t } := ⟨[' '], by decide⟩
  let layout : SolutionLine.Layout := ⟨blank, blank, blank, blank, ⟨[], by decide⟩⟩
  let ending : { t : Text // Text.IsEnd t } := ⟨['\r'], Or.inr ⟨'\r', by decide, rfl⟩⟩
  { marked := false
    rows := [(.listing ⟨SolutionLine.folderGuid, ['x'], ['x']⟩ layout (by decide), ending)]
    last := some (.listing besideFolderLine layout (by decide)) }

/-- The solution beside the project, which has an item with the name of the project. -/
def besideFolderTree : FileTree :=
  let project := "<P><ItemGroup><C Include='$(ProjectName).c'/></ItemGroup></P>".toList
  { root := .directory [(['d'], .directory [
      ("a.b.vcxproj".toList, .file { content := Text.Utf8.encode project }),
      ("s.SLN".toList, .file { content := besideFolder.octets })])]
    current := [['d']] }

/-- The project is given by a relative path and the solution by an absolute one, and both loads come
    to the same, with the item that is named after the project. -/
theorem load_through_solution_besideFolder :
    ∃ left, (Loading.outcome ((load besideFolderTree (.ofText "./a.b.vcxproj".toList)
          (Macros.seed none [])).run [])).map contents = .ok left ∧
      (Loading.outcome ((load besideFolderTree (.ofText "/d/s.SLN".toList)
          (Macros.seed none [])).run [])).map contents = .ok left ∧
      left.2.2.map (fun model => model.items.map (·.identity)) = [["a.b.c".toList]] := by
  have hlists : Solution.ListsOnly besideFolderTree ⟨['/'], [['d'], "s.SLN".toList]⟩
      ⟨['/'], [['d'], "a.b.vcxproj".toList]⟩ besideFolderLine :=
    Solution.listsOnly_of_written (f := besideFolder) rfl (by decide) (by decide) (by decide)
      (by decide) (by decide)
  have hproject : besideFolderTree.LeadsTo "./a.b.vcxproj".toList ⟨['/'], [['d']]⟩
      "a.b.vcxproj".toList := ⟨by decide, by decide, by decide, by decide⟩
  have hsolution : besideFolderTree.LeadsTo "/d/s.SLN".toList ⟨['/'], [['d']]⟩ "s.SLN".toList :=
    ⟨by decide, by decide, by decide, by decide⟩
  have hsame := load_through_solution (by decide +kernel) (by decide) hproject hsolution
    (by decide +kernel) (by decide) (by decide) hlists (Macros.seed none []) [] []
  obtain ⟨left, hleft, hitems⟩ := exists_ok_of_map
    (r := (Loading.outcome ((load besideFolderTree (.ofText "./a.b.vcxproj".toList)
      (Macros.seed none [])).run [])).map contents)
    (f := fun left => left.2.2.map fun model => model.items.map (·.identity))
    (b := [["a.b.c".toList]]) (by decide +kernel)
  exact ⟨left, hleft, hsame.trans hleft, hitems⟩

end Build

end CompilationDatabase
