import CompilationDatabase.Proofs.LoadFaults
import CompilationDatabase.Proofs.NormalPaths

/-!
# Fault locations — which file a fault is found in

A fault that has a cause is of use to a reader only if it says where it was found. The location is given
to each function by its caller, so each of them has to hand it on: expansion to the look-ups of names
and to the values that it enters, conditions to their sides, properties to their elements. What goes
wrong in one of them is found where it was told to be, for every location (`NameTable.foundAt_expand`
and those that follow). A project gives them the path of its file, so what goes wrong while it is loaded
is found there, however deep in an expansion it came up (`Project.foundAt_loaded`).

A solution is loaded line by line and project by project, and the first that goes wrong decides
(`Solution.Blames`). **`Solution.faults_name_files`** puts both together: the location is the solution if
it or one of its lines is at fault, and else the first project that cannot be loaded, which fails with
that same fault when it is loaded by itself.
-/

namespace CompilationDatabase

/-! ## Locations -/

/-- If the fault has a cause, it is found at this location. -/
def Fault.FoundAt (location : Option Text) (fault : Fault) : Prop :=
  ∀ cause found, fault = .failed cause found → found = location

namespace Fault

theorem foundAt_failed (cause : Cause) (location : Option Text) :
    (Fault.failed cause location).FoundAt location := by
  intro cause' found h
  cases h
  rfl

/-- A fault that has no cause, and so no status, is not said to be found elsewhere. -/
theorem foundAt_of_noStatus {fault : Fault} (h : fault.exitStatus? = none)
    (location : Option Text) : fault.FoundAt location := by
  rintro cause found rfl
  exact nomatch h

theorem foundAt_ofFile (cause : FileError → Cause) (place : Text) (e : FileError) :
    (Fault.ofFile cause place e).FoundAt (some place) := by
  rw [ofFile]
  split
  · exact foundAt_failed _ _
  · exact foundAt_of_noStatus rfl _

end Fault

/-! ## Handing on a location -/

section Locations

variable {m : Matching} (location : Option Text)

/-- What goes wrong in the expansion of a text is found at the location that the text has. -/
theorem NameTable.foundAt_expand (macros : NameTable m) (text : Text) :
    FailsOnly (Fault.FoundAt location) (macros.expand location text) :=
  macros.failsOnly_expand (fun cause => Fault.foundAt_failed cause location) text

/-- What goes wrong in the expansion of a table is found at the location that the table has. -/
theorem NameTable.foundAt_resolved (macros : NameTable m) :
    FailsOnly (Fault.FoundAt location) (macros.resolved location) :=
  macros.failsOnly_resolved fun cause => Fault.foundAt_failed cause location

/-- A condition that cannot be told is found at its location, and so is what is wrong with a side. -/
theorem Condition.foundAt_holds? (macros : NameTable m) (condition : Option Text) :
    FailsOnly (Fault.FoundAt location) (holds? location macros condition) :=
  failsOnly_holds? (fun cause => Fault.foundAt_failed cause location) macros condition

namespace Origin

variable {times : FileTimes (Except Fault)} (htimes : times.FailOnly (Fault.FoundAt location))
include htimes

/-- A name that is none of the metadata is found at the location it is asked for from. -/
theorem foundAt_valueOf (o : Origin) (name : Text) :
    FailsOnly (Fault.FoundAt location) (o.valueOf times location name) :=
  o.failsOnly_valueOf (fun cause => Fault.foundAt_failed cause location) htimes name

theorem foundAt_expandMetadata (o : Origin) (property text : Text) :
    FailsOnly (Fault.FoundAt location) (o.expandMetadata times location property text) :=
  o.failsOnly_expandMetadata (fun cause => Fault.foundAt_failed cause location) htimes property text

/-- What goes wrong in an element of a property, in either pass, is found at the location that the
    property has. -/
theorem foundAt_expandProperty (o : Origin) (property value : Text) (macros : NameTable m) :
    FailsOnly (Fault.FoundAt location) (o.expandProperty times location property macros value) :=
  o.failsOnly_expandProperty (fun cause => Fault.foundAt_failed cause location) htimes property value
    macros

end Origin

end Locations

/-! ## Projects -/

namespace FileTree

/-- What goes wrong with a time has no cause. -/
theorem foundAt_time (files : FileTree) (moment : Moments → Int) (path : Text)
    (location : Option Text) : FailsOnly (Fault.FoundAt location) (files.time moment path) := by
  rw [time]
  cases files.momentsOf path with
  | ok moments =>
      show FailsOnly _ ((Stamp.messageOfSeconds (Stamp.secondsOfNanos (moment moments))).mapError _)
      cases Stamp.messageOfSeconds (Stamp.secondsOfNanos (moment moments)) with
      | ok t => trivial
      | error e => exact Fault.foundAt_of_noStatus rfl location
  | error e =>
      show FailsOnly _ (if e.reason = .notFound then .ok [] else .error (.file e))
      split
      · trivial
      · exact Fault.foundAt_of_noStatus rfl location

theorem foundAt_times (files : FileTree) (location : Option Text) :
    files.times.FailOnly (Fault.FoundAt location) where
  modified _ := files.foundAt_time _ _ location
  created _ := files.foundAt_time _ _ location
  accessed _ := files.foundAt_time _ _ location

end FileTree

theorem Source.foundAt_load (files : FileTree) (path : Text) :
    FailsOnly (Fault.FoundAt (some path)) (load files path) := by
  rw [load]
  cases files.read path with
  | error e => exact Fault.foundAt_ofFile _ path e
  | ok octets =>
      show FailsOnly _ ((Xml.Document.read octets).mapError (fault path))
      cases Xml.Document.read octets with
      | ok root => trivial
      | error flaw =>
          cases flaw with
          | malformed => exact Fault.foundAt_failed _ _
          | _ => exact Fault.foundAt_of_noStatus rfl _

variable {m : Matching}

/-- What goes wrong while a project is loaded is found in its file. -/
theorem Project.foundAt_loaded (files : FileTree) (path : Path) (macros : NameTable m) :
    FailsOnly (Fault.FoundAt (some (files.absolute path).text)) (loaded files path macros) :=
  failsOnly_loaded files (Source.foundAt_load files _)
    (fun cause => Fault.foundAt_failed cause _) (files.foundAt_times _)

/-- What goes wrong when the macros of a project are expanded is found in its file. -/
theorem Project.foundAt_resolvedMacros (p : Project) :
    FailsOnly (Fault.FoundAt (some p.path.text)) p.resolvedMacros :=
  p.macros.foundAt_resolved _

/-! ## Solutions -/

namespace Solution

theorem foundAt_lines (files : FileTree) (path : Text) :
    FailsOnly (Fault.FoundAt (some path)) (lines files path) := by
  rw [lines]
  cases files.read path with
  | error e => exact Fault.foundAt_ofFile _ path e
  | ok octets =>
      dsimp only
      cases Text.Utf8.decodeMarked octets with
      | ok text => trivial
      | error e => exact Fault.foundAt_failed _ _

theorem foundAt_inspect (files : FileTree) (solution : Path) (l : SolutionLine) :
    FailsOnly (Fault.FoundAt (some solution.text)) (inspect files solution l) := by
  rw [inspect]
  cases l.kind with
  | folder => trivial
  | unsupported => exact Fault.foundAt_failed _ _
  | project =>
      dsimp only
      cases files.isFile (projectPath solution l).text with
      | error e => exact Fault.foundAt_of_noStatus rfl _
      | ok there =>
          cases there with
          | true => trivial
          | false => exact Fault.foundAt_failed _ _

/-- What is at fault when a solution at a path is not loaded, from some macros. -/
inductive Blames (files : FileTree) (solution : Path) (macros : NameTable m) (fault : Fault) : Prop
  /-- The solution cannot be read. -/
  | file (read : lines files solution.text = .error fault) (found : fault.FoundAt (some solution.text))
  /-- The solution lists a project that may not be there; nothing is wrong with the lines before. -/
  | line {ls : List Text} {before after : List SolutionLine} {l : SolutionLine}
      (read : lines files solution.text = .ok ls)
      (split : ls.filterMap SolutionLine.ofLine? = before ++ l :: after)
      (earlier : ∀ l' ∈ before, inspect files solution l' = .ok ())
      (fails : inspect files solution l = .error fault) (found : fault.FoundAt (some solution.text))
  /-- A project fails in the same way by itself; all lines may be there, and the projects before it
      can be loaded. -/
  | project {ls : List Text} {before after : List ListedProject} {p : ListedProject}
      (read : lines files solution.text = .ok ls)
      (listed : ∀ l ∈ ls.filterMap SolutionLine.ofLine?, inspect files solution l = .ok ())
      (split : projects solution ls = before ++ p :: after)
      (earlier : ∀ q ∈ before, ∃ model, alone files macros q = .ok model)
      (fails : alone files macros p = .error fault) (found : fault.FoundAt (some p.path.text))

/-- A project that a solution lists is where it is said to be. -/
theorem absolute_listed (files : FileTree) (path : Text) {ls : List Text} {p : ListedProject}
    (hp : p ∈ projects (files.absolute (.ofText path)) ls) : files.absolute p.path = p.path := by
  obtain ⟨l, -, rfl⟩ := List.mem_map.mp hp
  have hparent : (files.absolute (.ofText path)).parent.root.head? = some Path.separator :=
    Path.head?_root_join rfl path
  have habsolute : (listedProject (files.absolute (.ofText path)) l).path.isAbsolute = true :=
    Path.isAbsolute_normalized (Path.head?_text (Path.head?_root_join hparent (Path.native l.path)))
  rw [FileTree.absolute, Path.join, if_pos habsolute]

/-- **Faults name the file that failed.** What goes wrong with a project file is found in that file; and
    what goes wrong with a solution is found in the solution, if it cannot be read or one of its lines
    is at fault, or else in the first of its projects that cannot be loaded, with the same fault as by
    itself. -/
theorem faults_name_files (files : FileTree) (path : Text) (macros : NameTable m)
    (told : List Notice) :
    FailsOnly (Fault.FoundAt (some (files.absolute (.ofText path)).text))
        (Loading.outcome ((Project.load files (.ofText path) macros).run told)) ∧
      FailsOnly (Blames files (files.absolute (.ofText path)) macros)
        (outcome ((load files (.ofText path)).run ⟨macros, told⟩)) := by
  constructor
  · rw [Project.steady_load files _ macros told]
    exact Project.foundAt_loaded files _ macros
  · rw [outcome_load]
    have hfile := foundAt_lines files (files.absolute (.ofText path)).text
    cases hlines : lines files (files.absolute (.ofText path)).text with
    | error fault =>
        rw [hlines] at hfile
        exact .file hlines hfile
    | ok ls =>
        show FailsOnly _ (do
          (ls.filterMap SolutionLine.ofLine?).forM (inspect files (files.absolute (.ofText path)))
          let models ← (projects (files.absolute (.ofText path)) ls).mapM (alone files macros)
          return (models, named macros (projects (files.absolute (.ofText path)) ls)))
        cases hinspect : (ls.filterMap SolutionLine.ofLine?).forM
            (inspect files (files.absolute (.ofText path))) with
        | error fault =>
            obtain ⟨before, l, after, hsplit, hbefore, hl⟩ := exists_of_forM_eq_error hinspect
            have hline := foundAt_inspect files (files.absolute (.ofText path)) l
            rw [hl] at hline
            exact .line hlines hsplit hbefore hl hline
        | ok _ =>
            cases hmodels : (projects (files.absolute (.ofText path)) ls).mapM
                (alone files macros) with
            | ok models => trivial
            | error fault =>
                obtain ⟨before, p, after, hsplit, hbefore, hp⟩ := exists_of_mapM_eq_error hmodels
                have hproject : FailsOnly (Fault.FoundAt (some (files.absolute p.path).text))
                    (alone files macros p) := Project.foundAt_loaded files _ _
                have hmem : p ∈ projects (files.absolute (.ofText path)) ls :=
                  hsplit ▸ List.mem_append_right _ List.mem_cons_self
                rw [hp, absolute_listed files path hmem] at hproject
                exact .project hlines (forM_eq_ok_iff.mp hinspect) hsplit hbefore hp hproject

end Solution

end CompilationDatabase
