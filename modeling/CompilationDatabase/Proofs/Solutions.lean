import CompilationDatabase.Proofs.Contents
import CompilationDatabase.Proofs.Sharing
import CompilationDatabase.Solution.Basic

/-!
# Solutions — projects that do not influence each other

The projects of a solution are loaded one after the other, through one table of macros in which the
name of the project is set before each. `outcome_load` says what comes of that without the table: the
lines of the solution are looked at, and then each project that they list is loaded `alone`, with the
macros that were there from the start and its own name. What is left in the table is the name of the
last one.

So it does not matter in which order the projects are listed: `projects_independent`.

Two things are needed. A name that is set again is as if it had been set once
(`NameTable.insert_insert`), so no name of an earlier project is left; and what comes of loading does
not depend on what was told before (`Loading.Steady`).
-/

namespace CompilationDatabase

/-! ## Tables -/

theorem Entry.insert_insert {m : Matching} (name v w : Text) (es : List Entry) :
    insert m ⟨name, w⟩ (insert m ⟨name, v⟩ es) = insert m ⟨name, w⟩ es := by
  induction es with
  | nil => simp only [insert, if_true]
  | cons e es ih =>
      by_cases he : m.key e.name = m.key name
      · simp only [insert, if_pos he, if_true]
      · simp only [insert, if_neg he, ih]

theorem NameTable.insert_insert {m : Matching} (t : NameTable m) (name v w : Text) :
    (t.insert name v).insert name w = t.insert name w := by
  simp only [insert, Entry.insert_insert]

/-! ## Steps that do not depend on what was told -/

namespace Loading

variable {α β : Type}

/-- What comes of some steps, whatever is told. -/
def outcome {σ : Type} : EStateM.Result Fault σ α → Except Fault α
  | .ok a _ => .ok a
  | .error fault _ => .error fault

/-- The outcome is the same whatever was told before. -/
def Steady (x : Loading α) (r : Except Fault α) : Prop := ∀ told, outcome (x.run told) = r

theorem Steady.bind {x : Loading α} {r : Except Fault α} {f : α → Loading β}
    {k : α → Except Fault β} (hx : Steady x r) (hf : ∀ a, Steady (f a) (k a)) :
    Steady (x >>= f) (r >>= k) := by
  intro told
  rw [← hx told, EStateM.run_bind]
  cases x.run told with
  | error fault told' => rfl
  | ok a told' => exact hf a told'

theorem Steady.filterMapM {f : α → Loading (Option β)} {g : α → Except Fault (Option β)}
    (h : ∀ a, Steady (f a) (g a)) (l : List α) : Steady (l.filterMapM f) (l.filterMapM g) := by
  induction l with
  | nil => exact fun _ => rfl
  | cons a l ih =>
      rw [List.filterMapM_cons, List.filterMapM_cons]
      refine (h a).bind fun found => ?_
      cases found with
      | none => exact ih
      | some b => exact ih.bind fun _ _ => rfl

end Loading

namespace Project

/-- What comes of loading a project by itself. -/
def loaded {m : Matching} (files : FileTree) (path : Path) (macros : NameTable m) :
    Except Fault Project :=
  Loading.outcome ((load files path macros).run [])

theorem outcome_load {m : Matching} (files : FileTree) (path : Path) (macros : NameTable m)
    (told : List Notice) : Loading.outcome ((load files path macros).run told)
      = Loading.outcome ((Builder.build files).run (Builder.start files path macros)) := by
  rw [load]
  cases (Builder.build files).run (Builder.start files path macros) <;> rfl

theorem steady_load {m : Matching} (files : FileTree) (path : Path) (macros : NameTable m) :
    Loading.Steady (load files path macros) (loaded files path macros) := by
  intro told
  rw [loaded, outcome_load, outcome_load]

/-- A project is loaded in the same way from all trees that hold the same file for it. -/
theorem loaded_congr {m : Matching} {files files' : FileTree} {path : Path} {macros : NameTable m}
    (halike : files.Alike files')
    (hsame : Source.load files' (files.absolute path).text
      = Source.load files (files.absolute path).text) :
    loaded files' path macros = loaded files path macros := by
  have hstart : Builder.start files' path macros = Builder.start files path macros := by
    rw [Builder.start, halike.absolute_eq]
    rfl
  have hresolve : Builder.resolveItems files' = Builder.resolveItems files := by
    have hproperty : Builder.resolveProperty files' = Builder.resolveProperty files := by
      funext place item e
      rw [Builder.resolveProperty, Builder.resolveProperty, halike.times]
    have hitem : Builder.resolveItem files' = Builder.resolveItem files := by
      funext place item
      rw [Builder.resolveItem, Builder.resolveItem, hproperty]
    rw [Builder.resolveItems, Builder.resolveItems, hitem]
  have hwalk : (Builder.walkFile files').run (Builder.start files path macros)
      = (Builder.walkFile files).run (Builder.start files path macros) := by
    replace hsame : Source.load files' (Builder.start files path macros).location
        = Source.load files (Builder.start files path macros).location := hsame
    cases hload : Source.load files (Builder.start files path macros).location with
    | error fault =>
        rw [Builder.walkFile_of_fault hload, Builder.walkFile_of_fault (hsame.trans hload)]
    | ok root => rw [Builder.walkFile_of_load hload, Builder.walkFile_of_load (hsame.trans hload)]
  rw [loaded, loaded, outcome_load, outcome_load, hstart, Builder.build, Builder.build, hresolve,
    EStateM.run_bind, EStateM.run_bind, hwalk]

end Project

namespace Solution

/-! ## The lines of a solution -/

/-- A project that a line lists, in the solution at a path. -/
def listedProject (solution : Path) (l : SolutionLine) : ListedProject :=
  ⟨l.name, projectPath solution l⟩

/-- The projects that some lines list, in the solution at a path. -/
def projects (solution : Path) (lines : List Text) : List ListedProject :=
  ((lines.filterMap SolutionLine.ofLine?).filter (·.kind = .project)).map (listedProject solution)

/-- Whether a line of a solution may be there: a project has to be one that can be loaded, and its
    file has to exist. -/
def inspect (files : FileTree) (solution : Path) (l : SolutionLine) : Except Fault Unit :=
  match l.kind with
  | .folder => .ok ()
  | .unsupported => .error (.failed (.unsupportedProjectType l.guid) (some solution.text))
  | .project =>
    let path := projectPath solution l
    match files.isFile path.text with
    | .ok true => .ok ()
    | .ok false => .error (.failed (.missingProject path.text) (some solution.text))
    | .error e => .error (.file e)

/-- The project that a line lists, if it lists one. -/
def list? (files : FileTree) (solution : Path) (line : Text) :
    Except Fault (Option ListedProject) := do
  match SolutionLine.ofLine? line with
  | none => return none
  | some l =>
    inspect files solution l
    return if l.kind = .project then some (listedProject solution l) else none

theorem steady_project? (files : FileTree) (solution : Path) (line : Text) :
    Loading.Steady (project? files solution line) (list? files solution line) := by
  intro told
  rw [project?, list?]
  cases SolutionLine.ofLine? line with
  | none => rfl
  | some l =>
      simp only [inspect]
      cases l.kind with
      | folder => rfl
      | unsupported => rfl
      | project =>
          cases files.isFile (projectPath solution l).text with
          | error e => rfl
          | ok there => cases there <;> rfl

theorem filterMapM_list? (files : FileTree) (solution : Path) (lines : List Text) :
    lines.filterMapM (list? files solution) = do
      (lines.filterMap SolutionLine.ofLine?).forM (inspect files solution)
      return projects solution lines := by
  induction lines with
  | nil => rfl
  | cons line lines ih =>
      rw [List.filterMapM_cons, ih]
      cases hl : SolutionLine.ofLine? line with
      | none =>
          have hfirst : list? files solution line = .ok none := by
            rw [list?, hl]
            rfl
          have hprojects : projects solution (line :: lines) = projects solution lines := by
            rw [projects, List.filterMap_cons_none hl, projects]
          rw [hfirst, List.filterMap_cons_none hl, hprojects]
          rfl
      | some l =>
          have hfirst : list? files solution line = do
              inspect files solution l
              return if l.kind = .project then some (listedProject solution l) else none := by
            rw [list?, hl]
          have hprojects : projects solution (line :: lines)
              = if l.kind = .project then listedProject solution l :: projects solution lines
                else projects solution lines := by
            rw [projects, List.filterMap_cons_some hl, List.filter_cons, projects]
            by_cases hkind : l.kind = .project
            · simp only [hkind, decide_true, if_true, List.map_cons]
            · simp only [hkind, decide_false, if_false, Bool.false_eq_true]
          rw [hfirst, List.filterMap_cons_some hl, hprojects, List.forM_eq_forM, List.forM_cons,
            bind_assoc, bind_assoc]
          refine congrArg (inspect files solution l >>= ·) (funext fun _ => ?_)
          by_cases hkind : l.kind = .project
          · simp only [hkind, if_true, pure_bind, bind_assoc]
          · simp only [hkind, if_false, pure_bind]

theorem steady_read (files : FileTree) (path : Path) :
    Loading.Steady (read files path) (do
      let lines ← lines files (files.absolute path).text
      (lines.filterMap SolutionLine.ofLine?).forM (inspect files (files.absolute path))
      return projects (files.absolute path) lines) := by
  intro told
  rw [read]
  cases lines files (files.absolute path).text with
  | error fault => rfl
  | ok lines =>
      have hprojects := (Loading.Steady.filterMapM (steady_project? files (files.absolute path)) lines) told
      rw [filterMapM_list?] at hprojects
      exact hprojects

/-! ## Projects through one table -/

variable {m : Matching} {α β : Type}

/-- What comes of some steps of a session, with the macros that are left. -/
def outcome : EStateM.Result Fault (Session m) α → Except Fault (α × NameTable m)
  | .ok a s => .ok (a, s.macros)
  | .error fault _ => .error fault

theorem outcome_bind {x : EStateM Fault (Session m) α} {f : α → EStateM Fault (Session m) β}
    {k : α → NameTable m → Except Fault (β × NameTable m)}
    (hf : ∀ a s, outcome ((f a).run s) = k a s.macros) (s : Session m) :
    outcome ((x >>= f).run s) = outcome (x.run s) >>= fun r => k r.1 r.2 := by
  rw [EStateM.run_bind]
  cases x.run s with
  | error fault s' => rfl
  | ok a s' => exact hf a s'

theorem outcome_withNotices {f : Loading α} {r : Except Fault α} (hf : Loading.Steady f r)
    (s : Session m) : outcome ((withNotices f).run s) = r.map (·, s.macros) := by
  rw [← hf s.notices]
  cases hrun : f.run s.notices <;>
    simp only [withNotices, EStateM.run_bind, EStateM.run_get, hrun] <;> rfl

/-- What comes of a project that is loaded by itself, under a name. -/
def alone (files : FileTree) (macros : NameTable m) (p : ListedProject) : Except Fault Project :=
  Project.loaded files p.path (macros.insert Project.nameMacro p.name)

/-- The macros with the name of the last of some projects; if there are none, they are left. -/
def named (macros : NameTable m) (projects : List ListedProject) : NameTable m :=
  match projects.getLast? with
  | some p => macros.insert Project.nameMacro p.name
  | none => macros

theorem named_insert (macros : NameTable m) (p : ListedProject) (ps : List ListedProject) :
    named (macros.insert Project.nameMacro p.name) ps = named macros (p :: ps) := by
  rw [named, named, List.getLast?_cons]
  cases ps.getLast? with
  | none => rfl
  | some last => exact NameTable.insert_insert macros Project.nameMacro p.name last.name

theorem outcome_loadProject (files : FileTree) (p : ListedProject) (s : Session m) :
    outcome ((loadProject files p).run s)
      = (alone files s.macros p).map (·, s.macros.insert Project.nameMacro p.name) :=
  outcome_withNotices (Project.steady_load files p.path _)
    { s with macros := s.macros.insert Project.nameMacro p.name }

/-- Each of the projects is as it is alone, with the macros that were there before all of them. -/
theorem outcome_loadProjects (files : FileTree) (ps : List ListedProject) (s : Session m) :
    outcome ((ps.mapM (loadProject files)).run s)
      = (ps.mapM (alone files s.macros)).map (·, named s.macros ps) := by
  induction ps generalizing s with
  | nil => rfl
  | cons p ps ih =>
      -- the name of this project is set again before the next one is loaded
      have halone : alone files (s.macros.insert Project.nameMacro p.name) = alone files s.macros := by
        funext q
        rw [alone, NameTable.insert_insert, alone]
      let rest (model : Project) (macros : NameTable m) : Except Fault (List Project × NameTable m) :=
        (ps.mapM (alone files macros)).map fun models => (model :: models, named macros ps)
      have hrest : ∀ model (s : Session m),
          outcome ((do let models ← ps.mapM (loadProject files); return model :: models).run s)
            = rest model s.macros := by
        intro model s
        rw [outcome_bind (k := fun models macros => .ok (model :: models, macros)) (fun _ _ => rfl), ih]
        show _ = (ps.mapM (alone files s.macros)).map _
        cases ps.mapM (alone files s.macros) <;> rfl
      rw [List.mapM_cons, List.mapM_cons, outcome_bind (k := rest) hrest, outcome_loadProject]
      cases alone files s.macros p with
      | error fault => rfl
      | ok model =>
          show (ps.mapM (alone files (s.macros.insert Project.nameMacro p.name))).map (fun models =>
              (model :: models, named (s.macros.insert Project.nameMacro p.name) ps))
            = (ps.mapM (alone files s.macros) >>= fun models => pure (model :: models)).map _
          rw [halone, named_insert]
          cases ps.mapM (alone files s.macros) <;> rfl

/-- **What comes of a solution.** First its lines are looked at; then each project is as it is alone;
    and the macros are left with the name of the last one. -/
theorem outcome_load (files : FileTree) (path : Path) (s : Session m) :
    outcome ((load files path).run s) = do
      let lines ← lines files (files.absolute path).text
      (lines.filterMap SolutionLine.ofLine?).forM (inspect files (files.absolute path))
      let listed := projects (files.absolute path) lines
      let models ← listed.mapM (alone files s.macros)
      return (models, named s.macros listed) := by
  -- all projects are listed before the first one is loaded
  rw [load, outcome_bind (k := fun ps macros => (ps.mapM (alone files macros)).map (·, named macros ps))
    (outcome_loadProjects files), outcome_withNotices (steady_read files path)]
  cases lines files (files.absolute path).text with
  | error fault => rfl
  | ok lines =>
      show ((do
          (lines.filterMap SolutionLine.ofLine?).forM (inspect files (files.absolute path))
          return projects (files.absolute path) lines).map (·, s.macros)
        >>= fun r => (r.1.mapM (alone files r.2)).map (·, named r.2 r.1)) = do
          (lines.filterMap SolutionLine.ofLine?).forM (inspect files (files.absolute path))
          let models ← (projects (files.absolute path) lines).mapM (alone files s.macros)
          return (models, named s.macros (projects (files.absolute path) lines))
      cases (lines.filterMap SolutionLine.ofLine?).forM (inspect files (files.absolute path)) with
      | error fault => rfl
      | ok _ =>
          show ((projects (files.absolute path) lines).mapM (alone files s.macros)).map _
            = ((projects (files.absolute path) lines).mapM (alone files s.macros) >>= _)
          cases (projects (files.absolute path) lines).mapM (alone files s.macros) <;> rfl

theorem exists_run_of_outcome {r : EStateM.Result Fault (Session m) α} {a : α} {macros : NameTable m}
    (h : outcome r = .ok (a, macros)) : ∃ s, r = .ok a s ∧ s.macros = macros := by
  cases r with
  | error fault s => exact nomatch h
  | ok a' s => cases h; exact ⟨s, rfl, rfl⟩

theorem exists_run_of_map {r : EStateM.Result Fault (Session m) α} {f : α × NameTable m → β} {b : β}
    (h : (outcome r).toOption.map f = some b) : ∃ a s, r = .ok a s ∧ f (a, s.macros) = b := by
  obtain ⟨⟨a, macros⟩, houtcome, rfl⟩ := exists_ok_of_map h
  obtain ⟨s, hrun, rfl⟩ := exists_run_of_outcome houtcome
  exact ⟨a, s, hrun, rfl⟩

/-! ## The order of the projects -/

variable {files files' : FileTree} {solution solution' : Path}

theorem projectPath_congr (h : solution'.parent = solution.parent) :
    projectPath solution' = projectPath solution := by
  funext l
  rw [projectPath, projectPath, h]

theorem inspect_congr (halike : files.Alike files') (h : solution'.parent = solution.parent)
    {l : SolutionLine} (hl : inspect files solution l = .ok ()) : inspect files' solution' l = .ok () := by
  rw [inspect] at hl ⊢
  rw [projectPath_congr h, halike.isFile]
  cases hkind : l.kind with
  | folder => rfl
  | unsupported => simp only [hkind] at hl; exact nomatch hl
  | project =>
      simp only [hkind] at hl ⊢
      cases hthere : files.isFile (projectPath solution l).text with
      | error e => rw [hthere] at hl; exact nomatch hl
      | ok there =>
          cases there with
          | false => rw [hthere] at hl; exact nomatch hl
          | true => rfl

/-- **The projects of a solution do not influence each other.** If a solution can be loaded, each of
    its projects is as it is alone, with the macros from before and its own name; and the macros
    are left with the name of the last project, or as they were if there is none. If the same lines
    are put in another order, in another file of that directory or in the same one, and the files of
    the projects stay, the solution can be loaded as well, and there too each project is as it is
    alone. -/
theorem projects_independent {path : Path} {macros : NameTable m} {told : List Notice}
    {models : List Project} {s : Session m}
    (h : (load files path).run ⟨macros, told⟩ = .ok models s) :
    ∃ ls, lines files (files.absolute path).text = .ok ls ∧
      (projects (files.absolute path) ls).mapM (alone files macros) = .ok models ∧
      s.macros = named macros (projects (files.absolute path) ls) ∧
      ∀ files' path' ls' told', files.Alike files' →
        (files'.absolute path').parent = (files.absolute path).parent →
        (∀ p ∈ projects (files.absolute path) ls,
          Source.load files' (files.absolute p.path).text
            = Source.load files (files.absolute p.path).text) →
        lines files' (files'.absolute path').text = .ok ls' →
        (ls'.filterMap SolutionLine.ofLine?).Perm (ls.filterMap SolutionLine.ofLine?) →
        ∃ models' s', (load files' path').run ⟨macros, told'⟩ = .ok models' s' ∧
          (projects (files.absolute path) ls').Perm (projects (files.absolute path) ls) ∧
          (projects (files.absolute path) ls').mapM (alone files macros) = .ok models' := by
  have houtcome := outcome_load files path ⟨macros, told⟩
  rw [h] at houtcome
  obtain ⟨ls, hls, houtcome⟩ := ok_of_bind houtcome.symm
  obtain ⟨_, hinspect, houtcome⟩ := ok_of_bind houtcome
  obtain ⟨_, halone, houtcome⟩ := ok_of_bind houtcome
  obtain ⟨rfl, hmacros⟩ := Prod.mk.inj (Except.ok.inj houtcome)
  refine ⟨ls, hls, halone, hmacros.symm, ?_⟩
  intro files' path' ls' told' halike hparent hsame hls' hperm
  have hlisted : projects (files'.absolute path') = projects (files.absolute path) := by
    funext ls
    have hproject : listedProject (files'.absolute path') = listedProject (files.absolute path) := by
      funext l
      rw [listedProject, listedProject, projectPath_congr hparent]
    rw [projects, projects, hproject]
  have hprojects : (projects (files.absolute path) ls').Perm (projects (files.absolute path) ls) :=
    (hperm.filter _).map _
  -- every line of the other solution is one of this solution, and so is every project
  have hinspect' : (ls'.filterMap SolutionLine.ofLine?).forM (inspect files' (files'.absolute path'))
      = .ok () := by
    rw [forM_eq_ok_iff] at hinspect ⊢
    intro l hl
    exact inspect_congr halike hparent (hinspect l (hperm.mem_iff.mp hl))
  have heach : ∀ p ∈ projects (files.absolute path) ls', alone files' macros p = alone files macros p :=
    fun p hp => Project.loaded_congr halike (hsame p (hprojects.mem_iff.mp hp))
  have hends : ∀ p ∈ projects (files.absolute path) ls', ∃ model, alone files macros p = .ok model :=
    fun p hp => (mapM_eq_ok_iff.mp halone).1 p (hprojects.mem_iff.mp hp)
  have hmodels := mapM_eq_ok_iff.mpr ⟨hends, rfl⟩
  have hmodels' := (mapM_congr heach).trans hmodels
  have houtcome' := outcome_load files' path' ⟨macros, told'⟩
  rw [hls', hlisted] at houtcome'
  replace houtcome' : outcome ((load files' path').run ⟨macros, told'⟩) = do
      (ls'.filterMap SolutionLine.ofLine?).forM (inspect files' (files'.absolute path'))
      let models ← (projects (files.absolute path) ls').mapM (alone files' macros)
      return (models, named macros (projects (files.absolute path) ls')) := houtcome'
  rw [hinspect', hmodels'] at houtcome'
  obtain ⟨s', hrun, -⟩ := exists_run_of_outcome houtcome'
  exact ⟨_, s', hrun, hprojects, hmodels⟩

/-- Two solutions that list the same two projects, each in its own order. -/
def bothOrders : FileTree := .ofFiles [
  ("s", "Project(\"\x7b8BC9CEB8-8B4A-11D0-8D11-00A0C91BC942\x7d\")=\"one\",\"a\"
Project(\"\x7b8BC9CEB8-8B4A-11D0-8D11-00A0C91BC942\x7d\")=\"two\",\"b\""),
  ("t", "Project(\"\x7b8BC9CEB8-8B4A-11D0-8D11-00A0C91BC942\x7d\")=\"two\",\"b\"
Project(\"\x7b8BC9CEB8-8B4A-11D0-8D11-00A0C91BC942\x7d\")=\"one\",\"a\""),
  ("a", "<P/>"),
  ("b", "<P/>")]

/-- Both projects are as they are alone, and the name that is left is that of the last one. -/
theorem projects_independent_bothOrders :
    let macros : NameTable .ignoringCase := .empty
    let one : ListedProject := ⟨"one".toList, ⟨['/'], [['a']]⟩⟩
    let two : ListedProject := ⟨"two".toList, ⟨['/'], [['b']]⟩⟩
    ∃ models s models' s', (load bothOrders ⟨['/'], [['s']]⟩).run ⟨macros, []⟩ = .ok models s ∧
      (load bothOrders ⟨['/'], [['t']]⟩).run ⟨macros, []⟩ = .ok models' s' ∧
      [one, two].mapM (alone bothOrders macros) = .ok models ∧
      [two, one].mapM (alone bothOrders macros) = .ok models' ∧
      s.macros = macros.insert Project.nameMacro "two".toList := by
  intro macros one two
  let first : SolutionLine := ⟨SolutionLine.projectGuid, "one".toList, ['a']⟩
  let second : SolutionLine := ⟨SolutionLine.projectGuid, "two".toList, ['b']⟩
  let solution : Path := bothOrders.absolute ⟨['/'], [['s']]⟩
  let solution' : Path := bothOrders.absolute ⟨['/'], [['t']]⟩
  obtain ⟨models, s, hload, -⟩ : ∃ models s,
      (load bothOrders ⟨['/'], [['s']]⟩).run ⟨macros, []⟩ = .ok models s ∧ models.length = 2 :=
    exists_run_of_map (f := fun left : List Project × NameTable .ignoringCase => left.1.length)
      (by decide +kernel)
  obtain ⟨ls, hls, halone, hmacros, hrest⟩ := projects_independent hload
  obtain ⟨ls', hls', hlisted'⟩ : ∃ ls', lines bothOrders solution'.text = .ok ls' ∧
      ls'.filterMap SolutionLine.ofLine? = [second, first] :=
    exists_ok_of_map (by decide +kernel)
  obtain ⟨_, hls₁, hlisted⟩ : ∃ ls, lines bothOrders solution.text = .ok ls ∧
      ls.filterMap SolutionLine.ofLine? = [first, second] :=
    exists_ok_of_map (by decide +kernel)
  obtain rfl := Except.ok.inj (hls.symm.trans hls₁)
  have hprojects : projects solution ls = [one, two] := by
    rw [projects, hlisted]
    decide +kernel
  have hprojects' : projects solution ls' = [two, one] := by
    rw [projects, hlisted']
    decide +kernel
  obtain ⟨models', s', hload', -, halone'⟩ := hrest bothOrders ⟨['/'], [['t']]⟩ ls' []
    (FileTree.Alike.refl _) (by decide +kernel) (fun _ _ => rfl) hls'
    (by rw [hlisted, hlisted']; exact List.Perm.swap first second [])
  rw [hprojects] at halone hmacros
  rw [hprojects'] at halone'
  exact ⟨models, s, models', s', hload, hload', halone, halone', hmacros⟩

end Solution

end CompilationDatabase
