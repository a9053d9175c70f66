import CompilationDatabase.Proofs.LetterCase
import CompilationDatabase.Proofs.NormalPaths
import CompilationDatabase.Proofs.Pieces
import CompilationDatabase.Proofs.Solutions
import CompilationDatabase.Proofs.Utf8Texts

/-!
# Printed solutions — reading undoes writing

A solution is written as rows (`SolutionFile`): lines that list something, in a layout that is up to the
writer, and lines that say nothing. `Solution.read_written` says what is read from such a file. It goes
in three steps, and each of them undoes one of writing: the octets are read as the text
(`decodeMarked_octets`), the text is split where rows were put together (`filterMap_lines`), and a line
is read as what was printed into it (`ofLine?_print`).

Rows end with any character, or pair of them, at which a line can end. A row that ends in a carriage
return and an empty one that ends in a line feed are split as one, so the lines are not the rows. But an
empty line lists nothing; hence the lemmas on lines are about what is read from all of them together.
-/

namespace CompilationDatabase

namespace Text

/-! ## Lines that are put together -/

/-- Whether no line ends in a text. -/
def IsLine (t : Text) : Prop := ∀ c ∈ t, endsLine c = false

instance (t : Text) : Decidable (IsLine t) :=
  List.decidableBAll (fun c => endsLine c = false) t

/-- The end of a line. -/
def IsEnd (t : Text) : Prop := t = ['\r', '\n'] ∨ ∃ c, endsLine c = true ∧ t = [c]

theorem lines_cons_of_not_endsLine {c : Char} (h : endsLine c = false) (t : Text) :
    lines (c :: t) = consLine c (lines t) := by
  have hreturn : ∀ cs, c = '\r' → t = '\n' :: cs → False := by
    intro cs hc
    subst hc
    exact nomatch h
  rw [lines, if_neg (by simp [h])]
  exact hreturn

theorem lines_append_of_isLine {t u : Text} {rest : List Text} (ht : IsLine t)
    (hu : lines u = [] :: rest) : lines (t ++ u) = t :: rest := by
  induction t with
  | nil => exact hu
  | cons c t ih =>
      obtain ⟨hc, ht⟩ := List.forall_mem_cons.mp ht
      rw [List.cons_append, lines_cons_of_not_endsLine hc, ih ht, consLine]

theorem lines_of_isLine {t : Text} (ht : IsLine t) (hne : t ≠ []) : lines t = [t] := by
  induction t with
  | nil => exact absurd rfl hne
  | cons c t ih =>
      obtain ⟨hc, ht⟩ := List.forall_mem_cons.mp ht
      rw [lines_cons_of_not_endsLine hc]
      cases t with
      | nil => rfl
      | cons d t => rw [ih ht (List.cons_ne_nil d t), consLine]

section Reading

variable {α : Type} {f : Text → Option α} (hf : f [] = none)
include hf

/-- The end of a line is followed by the lines that come after it. A line feed that comes after a
    carriage return makes no line of its own, and what is read then is the same. -/
theorem exists_lines_end {e : Text} (he : IsEnd e) (u : Text) :
    ∃ rest, lines (e ++ u) = [] :: rest ∧ rest.filterMap f = (lines u).filterMap f := by
  rcases he with rfl | ⟨c, hc, rfl⟩
  · exact ⟨lines u, rfl, rfl⟩
  · -- a carriage return and a line feed after it end the same line
    by_cases hreturn : ∃ v, c = '\r' ∧ u = '\n' :: v
    · obtain ⟨v, rfl, rfl⟩ := hreturn
      refine ⟨lines v, rfl, ?_⟩
      have hfeed : lines ('\n' :: v) = [] :: lines v := rfl
      rw [hfeed, List.filterMap_cons_none hf]
    · refine ⟨lines u, ?_, rfl⟩
      rw [List.singleton_append, lines, if_pos hc]
      exact fun v hv hu => hreturn ⟨v, hv, hu⟩

theorem filterMap_lines_append {t e : Text} (ht : IsLine t) (he : IsEnd e) (u : Text) :
    (lines (t ++ e ++ u)).filterMap f = (f t).toList ++ (lines u).filterMap f := by
  obtain ⟨rest, hrest, hsame⟩ := exists_lines_end hf he u
  rw [List.append_assoc, lines_append_of_isLine ht hrest, List.filterMap_cons, hsame]
  cases f t <;> rfl

theorem filterMap_lines_of_isLine {t : Text} (ht : IsLine t) :
    (lines t).filterMap f = (f t).toList := by
  by_cases hne : t = []
  · subst hne
    rw [hf]
    rfl
  · rw [lines_of_isLine ht hne, List.filterMap_cons]
    cases f t <;> rfl

end Reading

end Text

namespace SolutionLine

/-! ## Lines that list something -/

open Text (IsLine after? isBlank)

theorem after?_append (word : String) (t : Text) : after? word (word.toList ++ t) = some t :=
  Text.isPrefixOf?_eq_some.mpr rfl

/-- A field in double quotes. -/
def quoted (t : Text) : Text := '"' :: t ++ ['"']

theorem quoted?_quoted {t : Text} (h : '"' ∉ t) (u : Text) : quoted? (quoted t ++ u) = some (t, u) := by
  refine Text.breakAt?_eq_some.mpr ⟨?_, h⟩
  exact List.append_assoc t ['"'] u

/-- Whether all characters are blanks of a line. -/
def AreBlanks (t : Text) : Prop := ∀ c ∈ t, isBlank c = true ∧ Text.endsLine c = false

instance (t : Text) : Decidable (AreBlanks t) :=
  List.decidableBAll (fun c => isBlank c = true ∧ Text.endsLine c = false) t

theorem skipBlanks_append {blanks : Text} (h : AreBlanks blanks) {d : Char}
    (hd : isBlank d = false) (t : Text) : skipBlanks (blanks ++ d :: t) = d :: t := by
  rw [skipBlanks, List.dropWhile_append_of_pos fun c hc => (h c hc).1,
    List.dropWhile_cons_of_neg (by simp [hd])]

theorem skipBlanks_quoted {blanks : Text} (h : AreBlanks blanks) (t u : Text) :
    skipBlanks (blanks ++ (quoted t ++ u)) = quoted t ++ u :=
  skipBlanks_append h (by decide : isBlank '"' = false) _

/-- What the writer of a solution is free to choose in a line: the blanks, and what follows the
    path. -/
structure Layout where
  beforeSign : { t : Text // AreBlanks t }
  afterSign : { t : Text // AreBlanks t }
  beforeComma : { t : Text // AreBlanks t }
  afterComma : { t : Text // AreBlanks t }
  rest : { t : Text // IsLine t }

/-- The word that such a line starts with. -/
def opening : Text := "Project(".toList

/-- The line that lists something. -/
def print (l : SolutionLine) (y : Layout) : Text :=
  opening ++ (quoted l.guid ++ ')' :: (y.beforeSign.1 ++ '=' :: (y.afterSign.1
    ++ (quoted l.name ++ (y.beforeComma.1 ++ ',' :: (y.afterComma.1 ++ (quoted l.path ++ y.rest.1)))))))

/-- Whether what a line lists can be written: no quotes in it, and no line ends. -/
structure Writable (l : SolutionLine) : Prop where
  guid : '"' ∉ l.guid ∧ IsLine l.guid
  name : '"' ∉ l.name ∧ IsLine l.name
  path : '"' ∉ l.path ∧ IsLine l.path

instance (l : SolutionLine) : Decidable l.Writable :=
  decidable_of_iff (('"' ∉ l.guid ∧ IsLine l.guid) ∧ ('"' ∉ l.name ∧ IsLine l.name) ∧
      ('"' ∉ l.path ∧ IsLine l.path))
    ⟨fun ⟨hguid, hname, hpath⟩ => ⟨hguid, hname, hpath⟩,
      fun ⟨hguid, hname, hpath⟩ => ⟨hguid, hname, hpath⟩⟩

theorem ofLine?_print {l : SolutionLine} (hl : l.Writable) (y : Layout) :
    ofLine? (l.print y) = some l := by
  have hsign (t : Text) : skipBlanks (y.beforeSign.1 ++ '=' :: t) = '=' :: t :=
    skipBlanks_append y.beforeSign.2 (by decide : isBlank '=' = false) t
  have hcomma (t : Text) : skipBlanks (y.beforeComma.1 ++ ',' :: t) = ',' :: t :=
    skipBlanks_append y.beforeComma.2 (by decide : isBlank ',' = false) t
  have hstart (t : Text) : after? "Project(" (opening ++ t) = some t := after?_append _ t
  have hclose (t : Text) : after? ")" (')' :: t) = some t := after?_append ")" t
  have hafterSign (t : Text) : after? "=" ('=' :: t) = some t := after?_append "=" t
  have hafterComma (t : Text) : after? "," (',' :: t) = some t := after?_append "," t
  simp only [ofLine?, print, hstart, hclose, hafterSign, hafterComma, Option.bind_eq_bind,
    Option.bind_some, quoted?_quoted hl.guid.1, hsign, skipBlanks_quoted y.afterSign.2,
    quoted?_quoted hl.name.1, hcomma, skipBlanks_quoted y.afterComma.2, quoted?_quoted hl.path.1]
  rfl

theorem isLine_print {l : SolutionLine} (hl : l.Writable) (y : Layout) : IsLine (l.print y) := by
  have hquoted {t : Text} (ht : IsLine t) : IsLine (quoted t) := by
    intro c hc
    rcases List.mem_append.mp hc with hc | hc
    · rcases List.mem_cons.mp hc with rfl | hc
      · decide
      · exact ht c hc
    · obtain rfl := List.mem_singleton.mp hc
      decide
  have hblanks (t : { t : Text // AreBlanks t }) : IsLine t.1 := fun c hc => (t.2 c hc).2
  have hopening : IsLine opening := by decide
  have hguid := hquoted hl.guid.2
  have hname := hquoted hl.name.2
  have hpath := hquoted hl.path.2
  simp only [IsLine, print, List.forall_mem_append, List.forall_mem_cons] at *
  exact ⟨hopening, hguid, by decide, hblanks _, by decide,
    hblanks _, hname, hblanks _, by decide,
    hblanks _, hpath, y.rest.2⟩

/-- A line that does not start as such lines do lists nothing. -/
theorem ofLine?_eq_none {line : Text} (h : ¬ opening ++ ['"'] <+: line) : ofLine? line = none := by
  cases hafter : after? "Project(" line with
  | none => rw [ofLine?, hafter]; rfl
  | some t =>
      have hline : line = opening ++ t := Text.isPrefixOf?_eq_some.mp hafter
      have hquoted : quoted? t = none := by
        cases t with
        | nil => rfl
        | cons c t =>
            rw [quoted?.eq_def]
            split
            · rename_i cs hcs
              refine absurd ?_ h
              rw [hline, hcs]
              exact ⟨cs, by simp⟩
            · rfl
      simp only [ofLine?, hafter, Option.bind_eq_bind, Option.bind_some, hquoted, Option.bind_none]

end SolutionLine

/-! ## Solutions as they are written -/

open Text (IsLine IsEnd)

/-- One row of a solution file. -/
inductive Row
  | listing (l : SolutionLine) (layout : SolutionLine.Layout) (writable : l.Writable)
  /-- A line that does not start as one that lists something, and not with a byte order mark. -/
  | other (line : Text) (isLine : IsLine line) (start : ¬ SolutionLine.opening ++ ['"'] <+: line)
      (unmarked : line.head? ≠ some Text.Utf8.markChar)

namespace Row

def text : Row → Text
  | listing l layout _ => l.print layout
  | other line _ _ _ => line

def listed? : Row → Option SolutionLine
  | listing l _ _ => some l
  | other _ _ _ _ => none

theorem isLine_text (r : Row) : IsLine r.text := by
  cases r with
  | listing l layout writable => exact SolutionLine.isLine_print writable layout
  | other line isLine start unmarked => exact isLine

theorem ofLine?_text (r : Row) : SolutionLine.ofLine? r.text = r.listed? := by
  cases r with
  | listing l layout writable => exact SolutionLine.ofLine?_print writable layout
  | other line isLine start unmarked => exact SolutionLine.ofLine?_eq_none start

theorem head?_text (r : Row) : r.text.head? ≠ some Text.Utf8.markChar := by
  cases r with
  | listing l layout writable =>
      have hfirst : (l.print layout).head? = some 'P' := rfl
      rw [text, hfirst]
      decide
  | other line isLine start unmarked => exact unmarked

end Row

/-- A solution file: rows with their ends, perhaps a last one without, and perhaps a byte order mark
    in front. -/
structure SolutionFile where
  marked : Bool
  rows : List (Row × { t : Text // IsEnd t })
  last : Option Row

namespace SolutionFile

def text (f : SolutionFile) : Text :=
  f.rows.flatMap (fun r => r.1.text ++ r.2.1) ++ (f.last.map Row.text).getD []

def octets (f : SolutionFile) : List UInt8 :=
  (if f.marked then Text.Utf8.mark else []) ++ Text.Utf8.encode f.text

/-- What the rows list, in their order. -/
def listed (f : SolutionFile) : List SolutionLine :=
  (f.rows.map (·.1) ++ f.last.toList).filterMap Row.listed?

theorem filterMap_lines (f : SolutionFile) :
    (Text.lines f.text).filterMap SolutionLine.ofLine? = f.listed := by
  obtain ⟨marked, rows, last⟩ := f
  have hnil : SolutionLine.ofLine? [] = none := rfl
  rw [text, listed]
  induction rows with
  | nil =>
      cases last with
      | none => rfl
      | some r =>
          show (Text.lines r.text).filterMap SolutionLine.ofLine? = [r].filterMap Row.listed?
          rw [Text.filterMap_lines_of_isLine hnil r.isLine_text, r.ofLine?_text, List.filterMap_cons]
          cases r.listed? <;> rfl
  | cons r rows ih =>
      rw [List.flatMap_cons, List.append_assoc, Text.filterMap_lines_append hnil r.1.isLine_text r.2.2,
        ih, r.1.ofLine?_text, List.map_cons, List.cons_append, List.filterMap_cons]
      cases r.1.listed? <;> rfl

theorem not_isEnd_mark {e : Text} (he : IsEnd e) (u : Text) :
    (e ++ u).head? ≠ some Text.Utf8.markChar := by
  rcases he with rfl | ⟨c, hc, rfl⟩
  · exact (by decide : some '\r' ≠ some Text.Utf8.markChar)
  · intro hmark
    obtain rfl : c = Text.Utf8.markChar := Option.some.inj hmark
    exact absurd hc (by decide)

theorem head?_text (f : SolutionFile) : f.text.head? ≠ some Text.Utf8.markChar := by
  obtain ⟨marked, rows, last⟩ := f
  rw [text]
  cases rows with
  | nil =>
      cases last with
      | none => exact nofun
      | some r => exact r.head?_text
  | cons r rows =>
      rw [List.flatMap_cons]
      -- an empty row is followed by its end
      have hrow := r.1.head?_text
      cases htext : r.1.text with
      | nil =>
          rw [List.nil_append, List.append_assoc]
          exact not_isEnd_mark r.2.2 _
      | cons c t =>
          rw [htext] at hrow
          exact hrow

theorem decodeMarked_octets (f : SolutionFile) : Text.Utf8.decodeMarked f.octets = .ok f.text :=
  Text.Utf8.decodeMarked_encode f.head?_text f.marked

end SolutionFile

namespace Solution

/-! ## What is read -/

/-- What is wrong with a line of a solution: its type is neither that of a folder nor that of a project,
    in any letter case, or the file of its project is not there. -/
def fault? (files : FileTree) (solution : Path) (l : SolutionLine) : Option Fault :=
  if l.guid.map Char.toUpper = SolutionLine.folderGuid then none
  else if l.guid.map Char.toUpper = SolutionLine.projectGuid then
    let path := projectPath solution l
    match files.isFile path.text with
    | .ok true => none
    | .ok false => some (.failed (.missingProject path.text) (some solution.text))
    | .error e => some (.file e)
  else some (.failed (.unsupportedProjectType l.guid) (some solution.text))

/-- The projects among what is listed, with the paths of their files. -/
def pairs (solution : Path) (ls : List SolutionLine) : List ListedProject :=
  (ls.filter (·.guid.map Char.toUpper = SolutionLine.projectGuid)).map (listedProject solution)

theorem inspect_eq (files : FileTree) (solution : Path) (l : SolutionLine) :
    inspect files solution l = match fault? files solution l with
      | some fault => .error fault
      | none => .ok () := by
  rw [inspect, fault?, l.kind_eq]
  by_cases hfolder : l.guid.map Char.toUpper = SolutionLine.folderGuid
  · simp only [if_pos hfolder]
  · by_cases hproject : l.guid.map Char.toUpper = SolutionLine.projectGuid
    · simp only [if_neg hfolder, if_pos hproject]
      cases files.isFile (projectPath solution l).text with
      | error e => rfl
      | ok there => cases there <;> rfl
    · simp only [if_neg hfolder, if_neg hproject]

/-- The first line with a fault decides. -/
theorem forM_inspect (files : FileTree) (solution : Path) (ls : List SolutionLine) :
    ls.forM (inspect files solution) = match ls.findSome? (fault? files solution) with
      | some fault => .error fault
      | none => .ok () := by
  induction ls with
  | nil => rfl
  | cons l ls ih =>
      rw [List.forM_eq_forM, List.forM_cons, ← List.forM_eq_forM, inspect_eq, List.findSome?_cons]
      cases fault? files solution l with
      | some fault => rfl
      | none => exact ih

theorem kind_eq_project_iff (l : SolutionLine) :
    l.kind = .project ↔ l.guid.map Char.toUpper = SolutionLine.projectGuid := by
  have hne : SolutionLine.projectGuid ≠ SolutionLine.folderGuid := by decide
  rw [l.kind_eq]
  by_cases hproject : l.guid.map Char.toUpper = SolutionLine.projectGuid
  · simp [hproject, hne]
  · by_cases hfolder : l.guid.map Char.toUpper = SolutionLine.folderGuid
    · simp [hfolder, hne.symm]
    · simp [hfolder, hproject]

theorem projects_eq_pairs (solution : Path) (lines : List Text) :
    projects solution lines = pairs solution (lines.filterMap SolutionLine.ofLine?) := by
  rw [projects, pairs]
  congr 1
  apply List.filter_congr
  intro l hl
  simp only [kind_eq_project_iff]

theorem text_projectPath (files : FileTree) (path : Text) (l : SolutionLine) :
    (projectPath (files.absolute (.ofText path)) l).isAbsolute = true ∧
      Path.normalizeText (projectPath (files.absolute (.ofText path)) l).text
        = (projectPath (files.absolute (.ofText path)) l).text := by
  have hsolution : (files.absolute (.ofText path)).root.head? = some Path.separator :=
    Path.head?_root_join rfl path
  have hparent : (files.absolute (.ofText path)).parent.root.head? = some Path.separator := hsolution
  have hhead := Path.head?_text (Path.head?_root_join hparent (Path.native l.path))
  rw [projectPath, Path.text_normalized hhead]
  exact ⟨Path.isAbsolute_normalized hhead, Path.normalizeText_normalizeText hhead⟩

/-- **Reading a solution undoes writing one.** What is read from a file that is made of rows is decided
    by the listing rows alone: the first one with a fault is reported, and if there is none, the
    projects are those that are listed, in their order, with paths that are absolute and normal. -/
theorem read_written {files : FileTree} {path : Text} {f : SolutionFile}
    (hf : files.read (files.absolute (.ofText path)).text = .ok f.octets) (told : List Notice) :
    let solution := files.absolute (.ofText path)
    Loading.outcome ((read files (.ofText path)).run told)
        = (match f.listed.findSome? (fault? files solution) with
          | some fault => .error fault
          | none => .ok (pairs solution f.listed)) ∧
      ∀ p ∈ pairs solution f.listed, p.path.isAbsolute = true ∧
        Path.normalizeText p.path.text = p.path.text := by
  intro solution
  constructor
  · have hlines : lines files solution.text = .ok (Text.lines f.text) := by
      rw [lines, hf]
      dsimp only
      rw [f.decodeMarked_octets]
    rw [steady_read files (.ofText path) told, hlines]
    show (do
        ((Text.lines f.text).filterMap SolutionLine.ofLine?).forM (inspect files solution)
        return projects solution (Text.lines f.text)) = _
    rw [projects_eq_pairs, f.filterMap_lines, forM_inspect]
    cases f.listed.findSome? (fault? files solution) <;> rfl
  · intro p hp
    obtain ⟨l, -, rfl⟩ := List.mem_map.mp hp
    exact text_projectPath files path l

/-- A solution with a byte order mark: a folder, a line that says nothing, the same project twice, and
    last, without a line end, one more. The types are in several letter cases. -/
def writtenFile : SolutionFile :=
  let blank : { t : Text // SolutionLine.AreBlanks t } := ⟨[' ', '\t'], by decide⟩
  let none : { t : Text // SolutionLine.AreBlanks t } := ⟨[], by decide⟩
  let layout : SolutionLine.Layout := ⟨none, blank, blank, none, ⟨[',', 'x'], by decide⟩⟩
  let feed : { t : Text // IsEnd t } := ⟨['\n'], Or.inr ⟨'\n', by decide, rfl⟩⟩
  let both : { t : Text // IsEnd t } := ⟨['\r', '\n'], Or.inl rfl⟩
  let project : Row := .listing
    ⟨SolutionLine.projectGuid.map Char.toLower, ['a', '=', '(', ','], ['.', '\\', 'p']⟩ layout
    (by decide)
  { marked := true
    rows := [
      (.listing ⟨SolutionLine.folderGuid, ['f'], ['f']⟩ layout (by decide), both),
      (.other ['P', 'r', 'o', 'j'] (by decide) (by decide) (by decide), feed),
      (project, both), (project, feed)]
    last := some (.listing ⟨SolutionLine.projectGuid, ['é'], ['q']⟩ layout
      (by decide)) }

/-- The solution in a directory with its projects, or with only the first of them. -/
def writtenTree (second : Bool) : FileTree :=
  let project : FileTree.Node := .file { content := [] }
  { root := .directory ([(['s'], .file { content := writtenFile.octets }), (['p'], project)]
      ++ if second then [(['q'], project)] else [])
    current := [] }

theorem read_written_repeated :
    Loading.outcome ((read (writtenTree true) (.ofText ['s'])).run [])
        = .ok [⟨['a', '=', '(', ','], ⟨['/'], [['p']]⟩⟩, ⟨['a', '=', '(', ','], ⟨['/'], [['p']]⟩⟩,
            ⟨['é'], ⟨['/'], [['q']]⟩⟩] ∧
      Loading.outcome ((read (writtenTree false) (.ofText ['s'])).run [])
        = .error (.failed (.missingProject ['/', 'q']) (some ['/', 's'])) := by
  have hread (second : Bool) : (writtenTree second).read
      ((writtenTree second).absolute (.ofText ['s'])).text = .ok writtenFile.octets := by
    cases second <;> rfl
  obtain ⟨houtcome, -⟩ := read_written (hread true) []
  obtain ⟨houtcome', -⟩ := read_written (hread false) []
  constructor
  · have hnone : writtenFile.listed.findSome? (fault? (writtenTree true)
        ((writtenTree true).absolute (.ofText ['s']))) = none := by
      rw [← Option.isNone_iff_eq_none]
      decide +kernel
    have hpairs : pairs ((writtenTree true).absolute (.ofText ['s'])) writtenFile.listed
        = [⟨['a', '=', '(', ','], ⟨['/'], [['p']]⟩⟩, ⟨['a', '=', '(', ','], ⟨['/'], [['p']]⟩⟩,
            ⟨['é'], ⟨['/'], [['q']]⟩⟩] := by
      decide +kernel
    rw [houtcome, hnone, hpairs]
  · have hfault : writtenFile.listed.findSome? (fault? (writtenTree false)
        ((writtenTree false).absolute (.ofText ['s'])))
          = some (.failed (.missingProject ['/', 'q']) (some ['/', 's'])) := by
      rfl
    rw [houtcome', hfault]

end Solution

end CompilationDatabase
