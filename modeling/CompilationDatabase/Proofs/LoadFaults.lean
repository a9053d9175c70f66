import CompilationDatabase.CommandLine.Run
import CompilationDatabase.Proofs.Faults
import CompilationDatabase.Proofs.Solutions

/-!
# Load faults — why a build is not loaded

A load is meant to end with a build or with a fault that has a cause. The cause has a category, and
with it the program has a status to end with (`CommandLine.run_of_cause`). `Build.load_fails` says that
every load ends so but for the faults in `Unforeseen`: these are about what cannot be asked of the files
at all, and they are passed on as they are.

Whether a file is there is asked in a way that has an answer for most paths: what would be below a
file is not there. The time of an item is asked in a way that has none then, so an item with such a path
stops the load without a cause (`Build.load_belowFile`).

All this is about trees in which every file may be read, no name is a link and the current directory is
there. What else a machine may refuse, for want of a permission or at the end of a link that leads
nowhere, is outside of the model.
-/

namespace CompilationDatabase

/-! ## Faults without a cause -/

namespace FileTree

variable {files : FileTree} {path : Text} {e : FileError}

theorem reason_of_follow {here names : List Text} {reason : FileError.Reason}
    (h : files.follow here names = .error reason) :
    reason = .notFound ∨ reason = .notDirectory ∨ reason = .nameTooLong := by
  fun_induction files.follow here names with
  | case1 here => exact nomatch h
  | case2 here name names entries hentries hstay ih => exact ih h
  | case3 here names entries hentries hstay ih => exact ih h
  | case4 here name names entries hentries hstay hback hlong =>
      cases h
      exact Or.inr (Or.inr rfl)
  | case5 here name names entries hentries hstay hback hshort hthere ih => exact ih h
  | case6 here name names entries hentries hstay hback hshort hgone =>
      cases h
      exact Or.inl rfl
  | case7 here name names hfile =>
      cases h
      exact Or.inr (Or.inl rfl)

/-- Why nothing is found at a path. -/
theorem reason_of_node (h : files.node path = .error e) :
    e.reason = .notFound ∨ e.reason = .notDirectory ∨ e.reason = .nameTooLong ∨
      e.reason = .nullCharacter := by
  have hreason {reason : FileError.Reason} (hresolve : files.resolve path = .error reason) :
      reason = .notFound ∨ reason = .notDirectory ∨ reason = .nameTooLong ∨
        reason = .nullCharacter := by
    rw [resolve] at hresolve
    split at hresolve
    · cases hresolve
      exact Or.inr (Or.inr (Or.inr rfl))
    split at hresolve
    · cases hresolve
      exact Or.inl rfl
    split at hresolve
    · cases hresolve
      exact Or.inr (Or.inr (Or.inl rfl))
    · rcases reason_of_follow hresolve with h | h | h
      · exact Or.inl h
      · exact Or.inr (Or.inl h)
      · exact Or.inr (Or.inr (Or.inl h))
  rw [node] at h
  cases hresolve : files.resolve path with
  | error reason =>
      rw [hresolve] at h
      cases h
      exact hreason hresolve
  | ok names =>
      rw [hresolve] at h
      dsimp only at h
      cases hfind : files.root.find? names with
      | some there =>
          rw [hfind] at h
          cases h
      | none =>
          rw [hfind] at h
          cases h
          exact Or.inl rfl

theorem node_of_isKind {kind : Node → Bool} (h : isKind kind files path = .error e) :
    files.node path = .error e ∧ e.reason = .nameTooLong := by
  rw [isKind] at h
  cases hnode : files.node path with
  | ok there =>
      rw [hnode] at h
      cases h
  | error e' =>
      rw [hnode] at h
      dsimp only at h
      split at h
      · rename_i hreason
        cases h
        exact ⟨rfl, hreason⟩
      · cases h

theorem node_of_isDirectory (h : files.isDirectory path = .ok true) :
    ∃ there, files.node path = .ok there := by
  rw [isDirectory, isKind] at h
  cases hnode : files.node path with
  | ok there => exact ⟨there, rfl⟩
  | error e =>
      rw [hnode] at h
      dsimp only at h
      split at h <;> cases h

theorem isDirectory_of_fileNames (h : files.fileNames path = .error e) :
    files.isDirectory path = .error e := by
  cases hdirectory : files.isDirectory path with
  | error e' =>
      rw [fileNames, hdirectory] at h
      exact congrArg Except.error (Except.error.inj h)
  | ok there =>
      cases there with
      | false =>
          rw [fileNames, hdirectory] at h
          cases h
      | true =>
          -- what is a directory is there
          obtain ⟨there, hnode⟩ := node_of_isDirectory hdirectory
          simp only [fileNames, hdirectory, hnode, bind, Except.bind, if_true] at h
          cases there <;> cases h

theorem node_of_read (h : files.read path = .error e) :
    files.node path = .error e ∨ e.reason = .isDirectory := by
  rw [read] at h
  cases hnode : files.node path with
  | error e' =>
      rw [hnode] at h
      exact Or.inl (congrArg Except.error (Except.error.inj h))
  | ok n =>
      rw [hnode] at h
      cases n with
      | file f => exact nomatch h
      | directory entries =>
          obtain rfl := Except.error.inj h
          exact Or.inr rfl

/-- What has moments is there. -/
theorem node_of_momentsOf {moments : Moments} (h : files.momentsOf path = .ok moments) :
    ∃ there, files.node path = .ok there := by
  rw [momentsOf] at h
  rw [node]
  cases hresolve : files.resolve path with
  | error reason =>
      rw [hresolve] at h
      cases h
  | ok names =>
      rw [hresolve] at h
      dsimp only at h ⊢
      cases hfind : files.root.find? names with
      | some there => exact ⟨there, rfl⟩
      | none =>
          rw [hfind] at h
          cases h

/-- What has no moments is not there, for the same reason. -/
theorem node_of_momentsOf_error (h : files.momentsOf path = .error e) :
    files.node path = .error e := by
  rw [momentsOf] at h
  rw [node]
  cases hresolve : files.resolve path with
  | error reason =>
      rw [hresolve] at h
      exact congrArg Except.error (Except.error.inj h)
  | ok names =>
      rw [hresolve] at h
      dsimp only at h ⊢
      cases hfind : files.root.find? names with
      | some there =>
          rw [hfind] at h
          cases there <;> cases h
      | none =>
          rw [hfind] at h
          exact congrArg Except.error (Except.error.inj h)

end FileTree

/-- A fault without a cause: nothing can be asked of a path, a time cannot be told, or a document has an
    encoding that cannot be read. -/
inductive Unforeseen (files : FileTree) : Fault → Prop
  | tooLong {path : Text} {e : FileError} (node : files.node path = .error e)
      (reason : e.reason = .nameTooLong) : Unforeseen files (.file e)
  | nullCharacter {path : Text} {e : FileError} (node : files.node path = .error e)
      (reason : e.reason = .nullCharacter) : Unforeseen files (.file e)
  /-- The time is asked of an item that would be below a file. -/
  | below {o : Origin} {e : FileError} (node : files.node o.fullPath = .error e)
      (reason : e.reason = .notDirectory) : Unforeseen files (.file e)
  /-- The time is asked of an item that is there, and there is no date for it. -/
  | time {o : Origin} {there : FileTree.Node} {nanos : Int} {e : TimeError}
      (node : files.node o.fullPath = .ok there)
      (message : Stamp.messageOfSeconds (Stamp.secondsOfNanos nanos) = .error e) :
      Unforeseen files (.time e)
  | encoding {path : Text} {octets : List UInt8} {flaw : Xml.Flaw}
      (read : files.read path = .ok octets) (document : Xml.Document.read octets = .error flaw)
      (known : flaw ≠ .malformed) : Unforeseen files (Source.fault path flaw)

/-- A fault that a load may end with: one that has a cause, and so a status, or one that has none. -/
def LoadFault (files : FileTree) (fault : Fault) : Prop :=
  (∃ cause location, fault = .failed cause location) ∨ Unforeseen files fault

section Files

variable (files : FileTree)

theorem loadFault_failed (cause : Cause) (location : Option Text) :
    LoadFault files (.failed cause location) :=
  Or.inl ⟨cause, location, rfl⟩

theorem failsOnly_time (moment : Moments → Int) (o : Origin) :
    FailsOnly (LoadFault files) (files.time moment o.fullPath) := by
  rw [FileTree.time]
  cases hmoments : files.momentsOf o.fullPath with
  | ok moments =>
      obtain ⟨there, hnode⟩ := FileTree.node_of_momentsOf hmoments
      show FailsOnly _ ((Stamp.messageOfSeconds (Stamp.secondsOfNanos (moment moments))).mapError _)
      cases hmessage : Stamp.messageOfSeconds (Stamp.secondsOfNanos (moment moments)) with
      | ok t => trivial
      | error e => exact Or.inr (.time hnode hmessage)
  | error e =>
      have hnode := FileTree.node_of_momentsOf_error hmoments
      show FailsOnly _ (if e.reason = .notFound then .ok [] else .error (.file e))
      split
      · trivial
      · rename_i hreason
        rcases FileTree.reason_of_node hnode with h | h | h | h
        · exact absurd h hreason
        · exact Or.inr (.below hnode h)
        · exact Or.inr (.tooLong hnode h)
        · exact Or.inr (.nullCharacter hnode h)

theorem failsOnly_times : files.times.FailOnly (LoadFault files) where
  modified := failsOnly_time files _
  created := failsOnly_time files _
  accessed := failsOnly_time files _

variable {files} in
theorem loadFault_of_isKind {kind : FileTree.Node → Bool} {path : Text} {e : FileError}
    (h : FileTree.isKind kind files path = .error e) : LoadFault files (.file e) := by
  obtain ⟨hnode, hreason⟩ := FileTree.node_of_isKind h
  exact Or.inr (.tooLong hnode hreason)

theorem failsOnly_isKind (kind : FileTree.Node → Bool) (path : Text) :
    FailsOnly (LoadFault files) ((FileTree.isKind kind files path).mapError .file) := by
  cases hkind : FileTree.isKind kind files path with
  | ok there => trivial
  | error e => exact loadFault_of_isKind hkind

/-- A file that cannot be read is a cause, unless its path has a null character. -/
theorem loadFault_ofFile {path : Text} {e : FileError} (h : files.read path = .error e)
    (cause : FileError → Cause) (location : Text) : LoadFault files (.ofFile cause location e) := by
  rw [Fault.ofFile]
  split
  · exact loadFault_failed files _ _
  · rename_i hrefusal
    have hreason : e.reason = .nullCharacter := by
      simpa [FileError.isRefusal] using hrefusal
    rcases FileTree.node_of_read h with hnode | hdirectory
    · exact Or.inr (.nullCharacter hnode hreason)
    · rw [hdirectory] at hreason
      exact nomatch hreason

theorem failsOnly_source (path : Text) : FailsOnly (LoadFault files) (Source.load files path) := by
  rw [Source.load]
  cases hread : files.read path with
  | error e => exact loadFault_ofFile files hread _ _
  | ok octets =>
      show FailsOnly _ ((Xml.Document.read octets).mapError (Source.fault path))
      cases hdocument : Xml.Document.read octets with
      | ok root => trivial
      | error flaw =>
          by_cases hflaw : flaw = .malformed
          · subst hflaw
            exact loadFault_failed files _ _
          · exact Or.inr (.encoding hread hdocument hflaw)

/-! ## Loading -/

variable {m : Matching}

/-- A project is loaded, or its file cannot be read, or something is wrong in its scope. -/
theorem Project.failsOnly_loaded {P : Fault → Prop} {path : Path} {macros : NameTable m}
    (hsource : FailsOnly P (Source.load files (files.absolute path).text))
    (hP : ∀ cause, P (.failed cause (some (files.absolute path).text)))
    (htimes : files.times.FailOnly P) : FailsOnly P (loaded files path macros) := by
  have hbuild : FailsOnly P
      (Builder.outcome ((Builder.build files).run (Builder.start files path macros))) := by
    cases hload : Source.load files (files.absolute path).text with
    | error fault =>
        -- nothing is read of the project, so it has no scope
        rw [hload] at hsource
        have hwalk : (Builder.walkFile files).run (Builder.start files path macros)
            = .error fault (Builder.start files path macros) := Builder.walkFile_of_fault hload
        rw [Builder.build, EStateM.run_bind, hwalk]
        exact hsource
    | ok root =>
        rw [Builder.outcome_build ⟨root, hload, rfl⟩]
        exact Scope.failsOnly_build hP rfl htimes _
  rw [loaded, outcome_load]
  cases hrun : (Builder.build files).run (Builder.start files path macros) with
  | ok p b => trivial
  | error fault b =>
      rw [hrun] at hbuild
      exact hbuild

theorem failsOnly_loaded (path : Path) (macros : NameTable m) :
    FailsOnly (LoadFault files) (Project.loaded files path macros) :=
  Project.failsOnly_loaded files (failsOnly_source files _)
    (fun cause => loadFault_failed files cause _) (failsOnly_times files)

theorem failsOnly_inspect (solution : Path) (l : SolutionLine) :
    FailsOnly (LoadFault files) (Solution.inspect files solution l) := by
  rw [Solution.inspect]
  cases l.kind with
  | folder => trivial
  | unsupported => exact loadFault_failed files _ _
  | project =>
      dsimp only
      cases hfile : files.isFile (Solution.projectPath solution l).text with
      | error e => exact loadFault_of_isKind hfile
      | ok there =>
          cases there with
          | true => trivial
          | false => exact loadFault_failed files _ _

theorem failsOnly_lines (path : Text) : FailsOnly (LoadFault files) (Solution.lines files path) := by
  rw [Solution.lines]
  cases hread : files.read path with
  | error e => exact loadFault_ofFile files hread _ _
  | ok octets =>
      dsimp only
      cases Text.Utf8.decodeMarked octets with
      | ok text => trivial
      | error e => exact loadFault_failed files _ _

theorem failsOnly_solution (path : Path) (s : Session m) :
    FailsOnly (LoadFault files) (Solution.outcome ((Solution.load files path).run s)) := by
  have halone (p : ListedProject) :
      FailsOnly (LoadFault files) (Solution.alone files s.macros p) :=
    failsOnly_loaded files p.path _
  rw [Solution.outcome_load]
  refine (failsOnly_lines files _).bind fun lines _ => ?_
  refine (FailsOnly.forM (failsOnly_inspect files _) _).bind fun _ _ => ?_
  exact (FailsOnly.mapM halone _).bind fun _ _ => trivial

theorem failsOnly_resolve (path : Path) :
    FailsOnly (LoadFault files) (Target.resolve files path) := by
  have hunique (several : Cause) (location : Text) (names : List Text) :
      FailsOnly (LoadFault files) (Target.unique? several location names) := by
    rw [Target.unique?.eq_def]
    split
    · trivial
    · trivial
    · exact loadFault_failed files _ _
  have hnames (directory : Text) :
      FailsOnly (LoadFault files) ((files.fileNames directory).mapError .file) := by
    cases hfile : files.fileNames directory with
    | ok names => trivial
    | error e => exact loadFault_of_isKind (FileTree.isDirectory_of_fileNames hfile)
  have hfind (directory : Path) (location : Text) :
      FailsOnly (LoadFault files) (Target.find files directory location) := by
    refine (hnames _).bind fun names _ => ?_
    refine (hunique _ _ _).bind fun solution _ => ?_
    cases solution with
    | some name => trivial
    | none =>
        refine (hunique _ _ _).bind fun project _ => ?_
        cases project with
        | some name => trivial
        | none => exact loadFault_failed files _ _
  have htarget (target : Path) : FailsOnly (LoadFault files) (do
      if ← (files.isFile target.text).mapError .file then return files.absolute target
      else throw (.failed .noTarget (some target.text))) := by
    refine (failsOnly_isKind files _ _).bind fun there _ => ?_
    cases there with
    | true => trivial
    | false => exact loadFault_failed files _ _
  refine (failsOnly_isKind files _ _).bind fun there _ => ?_
  cases there with
  | true => exact (hfind path path.text).bind fun target _ => htarget target
  | false => exact htarget path

theorem Loading.failsOnly_andReturn {α β : Type} {P : Fault → Prop} {x : Loading α}
    {told : List Notice} (h : FailsOnly P (outcome (x.run told))) (f : α → β) :
    FailsOnly P (outcome ((do let a ← x; return f a).run told)) := by
  rw [EStateM.run_bind]
  cases hrun : x.run told with
  | ok a told' => trivial
  | error fault told' =>
      rw [hrun] at h
      exact h

theorem failsOnly_loadProjects (target : Path) (macros : NameTable m) (told : List Notice) :
    FailsOnly (LoadFault files)
      (Loading.outcome ((Build.loadProjects files target macros).run told)) := by
  rw [Build.loadProjects, EStateM.run_bind]
  show FailsOnly _ (Loading.outcome (EStateM.run (if Target.isSolution target then _ else _) told))
  split
  · have hsolution := failsOnly_solution files target (m := m) ⟨macros, told⟩
    cases hrun : (Solution.load files target).run (⟨macros, told⟩ : Session m) with
    | ok models s => trivial
    | error fault s =>
        rw [hrun] at hsolution
        exact hsolution
  · have hproject := failsOnly_loaded files target (macros.insert Project.nameMacro target.stem)
    rw [← Project.steady_load files target _ told] at hproject
    exact Loading.failsOnly_andReturn hproject _

/-- A build is loaded, or there is a fault that a load may end with. -/
theorem failsOnly_load (path : Path) {macros : Except Fault (NameTable m)}
    (hmacros : FailsOnly (LoadFault files) macros) (told : List Notice) :
    FailsOnly (LoadFault files) (Loading.outcome ((Build.load files path macros).run told)) := by
  have htarget := failsOnly_resolve files path
  rw [Build.load]
  cases hresolve : Target.resolve files path with
  | error fault =>
      rw [hresolve] at htarget
      exact htarget
  | ok target =>
      cases macros with
      | error fault => exact hmacros
      | ok macros =>
          have hprojects := failsOnly_loadProjects files target
            (macros.insert Build.directoryMacro (target.parent.text ++ [Path.separator])) told
          exact Loading.failsOnly_andReturn hprojects _

end Files

/-! ## From the command line -/

theorem failsOnly_seed (files : FileTree) (environment : Option Text)
    (properties : List (NameTable .exact)) :
    FailsOnly (LoadFault files) (Macros.seed environment properties) := by
  have henvironment : FailsOnly (LoadFault files) (Macros.ofEnvironment environment) := by
    rw [Macros.ofEnvironment.eq_def]
    split
    · trivial
    · trivial
    · rename_i text _
      rw [PropertyString.parse]
      cases PropertyString.entries? (text.pieces ';') with
      | some es => trivial
      | none => exact loadFault_failed files _ _
  exact henvironment.bind fun _ _ => trivial

namespace CommandLine

/-- A load that fails with a cause ends a run with the status of the cause, and no file has changed. -/
theorem run_of_cause {arguments : List Text} {environment : Option Text} {files : FileTree}
    {room : Option Nat} {s : Settings} {macros : NameTable .ignoringCase} {cause : Cause}
    {location : Option Text} (hsettings : parse arguments = .ok s) (hmacros : s.macros environment = .ok macros)
    (hload : Loading.outcome ((Build.load files (s.start files) (.ok macros)).run [])
      = .error (.failed cause location)) :
    ∃ log, run arguments environment files room
      = (.ok ⟨cause.category.exitStatus, false, [], log⟩, files) := by
  obtain ⟨notices, hrun⟩ : ∃ notices, (Build.load files (s.start files) (.ok macros)).run []
      = .error (.failed cause location) notices := by
    cases hrun : (Build.load files (s.start files) (.ok macros)).run [] with
    | ok b notices =>
        rw [hrun] at hload
        exact nomatch hload
    | error fault notices =>
        rw [hrun] at hload
        exact ⟨notices, congrArg (EStateM.Result.error · notices) (Except.error.inj hload)⟩
  have hloading : (Running.load (Build.load files (s.start files) (.ok macros))).run ⟨files, []⟩
      = .error (.failed cause location) ⟨files, notices⟩ := by
    rw [Running.load, EStateM.run_bind, EStateM.run_get]
    dsimp only
    rw [hrun]
    rfl
  have hexecute : (execute s environment room).run { files }
      = .error (.failed cause location) ⟨files, notices⟩ := by
    rw [execute, hmacros]
    dsimp only
    rw [EStateM.run_bind, EStateM.run_get]
    dsimp only
    rw [EStateM.run_bind, hloading]
  refine ⟨s.log (notices ++ [.failed (.failed cause location)]), ?_⟩
  rw [run, hsettings]
  dsimp only
  rw [hexecute]
  rfl

end CommandLine

/-- **Why a build is not loaded.** A load ends with a build or with a fault that has a cause, unless
    something cannot be asked of the files at all; and a cause ends a run of the program with the
    status of its category. -/
theorem Build.load_fails (files : FileTree) (path : Path) (environment : Option Text)
    (properties : List (NameTable .exact)) (told : List Notice) :
    FailsOnly (LoadFault files)
        (Loading.outcome ((load files path (Macros.seed environment properties)).run told)) ∧
      ∀ arguments settings macros cause location room,
        CommandLine.parse arguments = .ok settings → settings.macros environment = .ok macros →
        Loading.outcome ((load files (settings.start files) (.ok macros)).run [])
          = .error (.failed cause location) →
        ∃ log, CommandLine.run arguments environment files room
          = (.ok ⟨cause.category.exitStatus, false, [], log⟩, files) :=
  ⟨failsOnly_load files path (failsOnly_seed files environment properties) told,
    fun _ _ _ _ _ _ hsettings hmacros hload => CommandLine.run_of_cause hsettings hmacros hload⟩

namespace Build

/-- A project with an item below a file, and a property that asks for its time. -/
def belowFile : FileTree := .ofFiles [
  ("f", ""),
  ("p", "<P><ItemGroup><C Include='f/x'><T>%(ModifiedTime)</T></C></ItemGroup></P>")]

theorem file_of_map {α : Type} {r : Except Fault α} {e : FileError}
    (h : (match r with | .error (.file e) => some e | _ => none) = some e) : r = .error (.file e) := by
  cases r with
  | ok a => exact nomatch h
  | error fault =>
      cases fault with
      | file e' => exact congrArg (Except.error ∘ Fault.file) (Option.some.inj h)
      | _ => exact nomatch h

/-- A time that is asked for below a file is a fault without a cause, and without a status. -/
theorem load_belowFile :
    let fault : Fault := .file ⟨.notDirectory, "/f/x".toList⟩
    Loading.outcome ((load belowFile (.ofText ['p']) (Macros.seed none [])).run []) = .error fault ∧
      fault.exitStatus? = none := by
  exact ⟨file_of_map (by decide +kernel), rfl⟩

theorem load_fails_noTarget :
    let files : FileTree := { root := .directory [], current := [] }
    ∃ log, CommandLine.run [['x']] none files = (.ok ⟨3, false, [], log⟩, files) := by
  intro files
  obtain ⟨macros, hmacros⟩ : ∃ macros, Macros.seed none [] = .ok macros := ⟨_, rfl⟩
  exact (load_fails files (.ofText ['x']) none [] []).2 [['x']]
    { path := some ['x'] } macros .noTarget (some ['x']) none rfl hmacros rfl

end Build

end CompilationDatabase
