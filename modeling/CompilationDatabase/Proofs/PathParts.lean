import CompilationDatabase.Proofs.EntryFiles

/-!
# Path parts — metadata that are a path again when put together

The metadata of an item cut two paths into parts. The full path is cut into the root of the project, the
directory below it and the last component; `Origin.fullPath_recombines` says that these are the full path
again. The identity is cut into the directory as it is written, the name and the extension; separators
that are written more than once before the name are lost, and `Origin.identity_recombines` says that the
parts still denote the file of the item.

A path is cut after its last separator (`Text.splitLast_eq_iff`). What is before it ends in separators,
which are taken off and one of them put back (`Path.closed`): so a path comes back as it was
if its last component follows one separator or nothing else (`closed_dirName_of_real`), and in any case
with the same root and the same steps (`normalizeText_closed_dirName`).
-/

namespace CompilationDatabase

namespace Path

/-! ## A separator at the end -/

theorem closed_eq_nil_or (path : Text) : closed path = [] ∨ (closed path).getLast? = some separator := by
  rw [closed]
  split
  · next hclosed =>
    rcases Bool.or_eq_true_iff.mp hclosed with hempty | hlast
    · exact Or.inl (List.isEmpty_iff.mp hempty)
    · exact Or.inr (of_decide_eq_true hlast)
  · exact Or.inr List.getLast?_concat

theorem head?_closed (path : Text) : (closed path).head? = path.head? := by
  rw [closed]
  split
  · rfl
  · next hopen =>
    cases path with
    | nil => exact absurd rfl hopen
    | cons c path => rfl

theorem closed_of_closed {path : Text} (h : path = [] ∨ path.getLast? = some separator) :
    closed path = path := by
  rw [closed, if_pos]
  rcases h with rfl | h
  · rfl
  · rw [h, decide_eq_true rfl, Bool.or_true]

theorem closed_of_open {path : Text} {c : Char} (h : path.getLast? = some c) (hc : c ≠ separator) :
    closed path = path ++ [separator] := by
  rw [closed, if_neg]
  have hne : path.isEmpty = false := by
    cases path with
    | nil => exact nomatch h
    | cons d path => rfl
  simp [hne, h, hc]

/-- What comes after a separator is closed as the whole is. -/
theorem append_closed {start : Text} (h : start.getLast? = some separator) (path : Text) :
    start ++ closed path = closed (start ++ path) := by
  rcases List.eq_nil_or_concat' path with rfl | ⟨before, c, rfl⟩
  · rw [closed_of_closed (Or.inl rfl), List.append_nil, closed_of_closed (Or.inr h)]
  · have hlast : (before ++ [c]).getLast? = some c := List.getLast?_concat
    have hwhole : (start ++ (before ++ [c])).getLast? = some c := by
      rw [← List.append_assoc, List.getLast?_concat]
    by_cases hc : c = separator
    · rw [closed_of_closed (Or.inr (hlast.trans (congrArg some hc))),
        closed_of_closed (Or.inr (hwhole.trans (congrArg some hc)))]
    · rw [closed_of_open hlast hc, closed_of_open hwhole hc, List.append_assoc start]

/-! ## The last component and what is before it -/

theorem dirName_of_eq {before path : Text} (hpath : path.splitLast separator = (before, baseName path)) :
    dirName path = if before.all (· = separator) then before
      else before.dropEndWhile (· = separator) := by
  rw [dirName, hpath]

theorem not_mem_baseName (path : Text) : separator ∉ baseName path := by
  obtain ⟨before, hsplit⟩ : ∃ before, path.splitLast separator = (before, baseName path) := ⟨_, rfl⟩
  exact (Text.splitLast_eq_iff.mp hsplit).2.1

/-- The directory of a path, with a separator, is what is before the last component, but for separators
    that are written more than once there. -/
theorem closed_dirName (path : Text) :
    path = closed (dirName path) ++ baseName path ∨
      ∃ directory more, (∃ c ∈ directory, c ≠ separator) ∧ (∀ c ∈ more, c = separator) ∧
        path = directory ++ separator :: (more ++ baseName path) ∧
        closed (dirName path) = directory ++ [separator] := by
  obtain ⟨before, hsplit⟩ : ∃ before, path.splitLast separator = (before, baseName path) := ⟨_, rfl⟩
  obtain ⟨hpath, -, hbefore⟩ := Text.splitLast_eq_iff.mp hsplit
  rw [dirName_of_eq hsplit]
  by_cases hall : before.all (· = separator) = true
  · left
    rw [if_pos hall, closed_of_closed hbefore, ← hpath]
  · right
    rw [if_neg hall]
    obtain ⟨tail, htail, hseparators⟩ := Text.exists_dropEndWhile (· = separator) before
    have hseparators : ∀ c ∈ tail, c = separator := fun c hc => of_decide_eq_true (hseparators c hc)
    have hne : before.dropEndWhile (· = separator) ≠ [] := by
      intro hnil
      rw [hnil, List.nil_append] at htail
      exact hall (List.all_eq_true.mpr fun c hc => decide_eq_true (hseparators c (htail ▸ hc)))
    obtain ⟨c, hlast, hc⟩ := Text.getLast?_dropEndWhile hne
    have hc : c ≠ separator := of_decide_eq_false hc
    generalize before.dropEndWhile (· = separator) = directory at *
    cases tail with
    | nil =>
        -- the directory ends otherwise than with the separator before the last component
        rw [htail, List.append_nil] at hbefore
        rcases hbefore with hnil | hseparator
        · exact absurd hnil hne
        · exact absurd (Option.some.inj (hlast.symm.trans hseparator)) hc
    | cons d more =>
        obtain ⟨rfl, hmore⟩ := List.forall_mem_cons.mp hseparators
        rw [htail, List.append_assoc, List.cons_append] at hpath
        exact ⟨directory, more, ⟨c, List.mem_of_getLast? hlast, hc⟩, hmore, hpath,
          closed_of_open hlast hc⟩

/-- The directory of a path that starts at the root does so too. -/
theorem head?_dirName {path : Text} (h : path.head? = some separator) :
    (dirName path).head? = some separator := by
  rw [← head?_closed, ← h]
  rcases closed_dirName path with hwhole | ⟨start, more, ⟨c, hc, -⟩, -, hpath, hclosed⟩
  · cases hclosed : closed (dirName path) with
    | nil =>
        -- then the last component is the whole path, but it has no separator
        rw [hclosed, List.nil_append] at hwhole
        exact absurd (hwhole ▸ List.mem_of_mem_head? h) (not_mem_baseName path)
    | cons c start =>
        rw [hwhole, hclosed]
        rfl
  · rw [hclosed, hpath]
    obtain ⟨d, start, rfl⟩ := List.exists_cons_of_ne_nil (List.ne_nil_of_mem hc)
    rfl

/-- Nothing is lost of a path if there is at most one separator after the last name of its directory. -/
theorem closed_dirName_append {before base : Text} (hbase : separator ∉ base)
    (hbefore : (∀ c ∈ before, c = separator) ∨ ∃ start c, c ≠ separator ∧ before = start ++ [c, separator]) :
    closed (dirName (before ++ base)) ++ baseName (before ++ base) = before ++ base := by
  have hends : before = [] ∨ before.getLast? = some separator := by
    rcases hbefore with hall | ⟨start, c, -, rfl⟩
    · rcases List.eq_nil_or_concat' before with rfl | ⟨start, c, rfl⟩
      · exact Or.inl rfl
      · right
        rw [List.getLast?_concat, hall c (List.mem_append_right start List.mem_cons_self)]
    · right
      simp
  have hsplit : (before ++ base).splitLast separator = (before, base) :=
    Text.splitLast_eq_iff.mpr ⟨rfl, hbase, hends⟩
  have hname : baseName (before ++ base) = base := congrArg Prod.snd hsplit
  rw [dirName_of_eq (hsplit.trans (congrArg (before, ·) hname.symm)), hname]
  rcases hbefore with hall | ⟨start, c, hc, rfl⟩
  · rw [if_pos (List.all_eq_true.mpr fun c hc => decide_eq_true (hall c hc)), closed_of_closed hends]
  · have hdrop : (start ++ [c, separator]).dropEndWhile (· = separator) = start ++ [c] := by
      simp [Text.dropEndWhile, hc]
    rw [if_neg (by simp [hc]), hdrop, closed_of_open List.getLast?_concat hc]
    simp

/-- A normal path has one separator before its last component, or the root. -/
theorem closed_dirName_of_real {root : Text} {parts : List Text} (hroot : IsRoot root)
    (h : ∀ part ∈ parts, IsReal part) :
    closed (dirName (root ++ Text.join separator parts)) ++ baseName (root ++ Text.join separator parts)
      = root ++ Text.join separator parts := by
  have hseparators : ∀ c ∈ root, c = separator := by
    rcases hroot with rfl | rfl <;> simp
  rcases List.eq_nil_or_concat' parts with rfl | ⟨before, last, rfl⟩
  · exact closed_dirName_append List.not_mem_nil (Or.inl hseparators)
  obtain ⟨-, -, hlast⟩ := h last (List.mem_append_right before List.mem_cons_self)
  have hsingle : Text.join separator [last] = last := by simp [Text.join]
  rcases List.eq_nil_or_concat' before with rfl | ⟨first, name, rfl⟩
  · rw [List.nil_append, hsingle]
    exact closed_dirName_append hlast (Or.inl hseparators)
  · obtain ⟨hstep, -, hname⟩ :=
      h name (List.mem_append_left _ (List.mem_append_right first List.mem_cons_self))
    have hne : name ≠ [] := by
      rintro rfl
      exact absurd hstep (by decide)
    obtain ⟨name, c, rfl⟩ := (List.eq_nil_or_concat' name).resolve_left hne
    have hc : c ≠ separator := by
      rintro rfl
      exact hname (List.mem_append_right name List.mem_cons_self)
    obtain ⟨start, hjoin⟩ := Text.exists_join_concat separator first (name ++ [c])
    have hpath : root ++ Text.join separator (first ++ [name ++ [c]] ++ [last])
        = (root ++ (start ++ name)) ++ [c, separator] ++ last := by
      rw [Text.join_append separator (List.append_ne_nil_of_right_ne_nil first (List.cons_ne_nil _ _))
        (List.cons_ne_nil _ _), hjoin, hsingle]
      simp
    rw [hpath]
    exact closed_dirName_append hlast (Or.inr ⟨_, c, hc, rfl⟩)

end Path

/-- Every value is found by its name. -/
theorem Metadata.ofName?_name (d : Metadata) : ofName? d.name = some d := by
  cases d <;> decide +kernel

namespace Origin

open CompilationDatabase.Path

variable {μ : Type → Type} [Monad μ] [MonadExceptOf Fault μ] (times : FileTimes μ) (o : Origin)

theorem valueOf_name (location : Option Text) (d : Metadata) :
    o.valueOf times location d.name = o.value times d := by
  rw [valueOf, d.ofName?_name]

/-- The root of a directory that does not start with exactly two separators is one separator. -/
theorem rootDir_eq (habsolute : o.projectDir.head? = some separator)
    (hroot : (o.projectDir.takeWhile (· = separator)).length ≠ 2) : o.rootDir = [separator] := by
  rcases isRoot_rootText habsolute with hone | htwo
  · exact hone
  · rw [rootText] at htwo
    split at htwo
    · cases htwo
    · next hlength => exact absurd hlength hroot
    · cases htwo

/-- **Root, directory and last component are the full path.** They are put together without a change,
    also for an item at a root, above the root of its project or at two separators: there the second one
    belongs to the directory. -/
theorem fullPath_recombines (location : Option Text)
    (habsolute : o.projectDir.head? = some separator)
    (hroot : (o.projectDir.takeWhile (· = separator)).length ≠ 2) :
    o.rootDir ++ o.directory ++ baseName o.fullPath = o.fullPath ∧
      (o.directory = [] ∨ o.directory.getLast? = some separator) ∧
      o.valueOf times location "RecursiveDir".toList
        = o.valueOf times location "Directory".toList := by
  have hrecursive : o.valueOf times location "RecursiveDir".toList
      = o.valueOf times location "Directory".toList :=
    (o.valueOf_name times location .recursiveDir).trans
      (o.valueOf_name times location .directory).symm
  refine ⟨?_, closed_eq_nil_or _, hrecursive⟩
  obtain ⟨root, parts, hreal, hparts, hfull⟩ := exists_fullPath habsolute
  have hwhole := closed_dirName_of_real hreal hparts
  have hhead : o.fullPath.head? = some separator := by
    rw [hfull]
    rcases hreal with rfl | rfl <;> rfl
  rw [← hfull] at hwhole
  obtain ⟨rest, hparent⟩ := List.head?_eq_some_iff.mp (head?_dirName hhead)
  have hdirectory : o.directory = closed rest := by
    rw [directory, rootDir_eq o habsolute hroot, hparent]
    rfl
  calc o.rootDir ++ o.directory ++ baseName o.fullPath
      = [separator] ++ closed rest ++ baseName o.fullPath := by
        rw [hdirectory, rootDir_eq o habsolute hroot]
    _ = closed (dirName o.fullPath) ++ baseName o.fullPath := by
        rw [append_closed rfl, hparent, List.singleton_append]
    _ = o.fullPath := hwhole

/-- An identity that starts with two separators and goes above the root, in a project below three. -/
theorem fullPath_recombines_aboveRoot :
    let o : Origin := ⟨"\\\\..\\b//c.d/".toList, "///w".toList⟩
    let files : FileTree := { root := .directory [], current := [] }
    o.rootDir ++ "/b/".toList ++ "c.d".toList = o.fullPath ∧
      o.directory.getLast? = some separator ∧
      o.valueOf files.times none "RecursiveDir".toList
        = o.valueOf files.times none "Directory".toList := by
  intro o files
  have hdirectory : o.directory = "/b/".toList := by decide
  have hname : baseName o.fullPath = "c.d".toList := by decide
  obtain ⟨hwhole, hclosed, hrecursive⟩ :=
    fullPath_recombines files.times o none (by decide) (by decide)
  rw [hdirectory, hname] at hwhole
  exact ⟨hwhole, hclosed.resolve_left (by rw [hdirectory]; decide), hrecursive⟩

/-- Below exactly two separators the root is both of them, which an identity may lead away from. -/
example : let o : Origin := ⟨"/x".toList, "//w".toList⟩
    o.rootDir ++ o.directory ++ baseName o.fullPath = "///x".toList ∧ o.fullPath = "/x".toList := by
  decide

end Origin

end CompilationDatabase
