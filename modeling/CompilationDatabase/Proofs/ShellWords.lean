import CompilationDatabase.Build.Basic
import CompilationDatabase.Proofs.Pieces
import Mathlib.Data.List.Forall2

/-!
# Shell words — what a shell makes of a command

The command of an entry is one text, and a shell cuts it into words again. `ShellWord.read` is that
shell: blanks outside quotes end words, everything stands for itself in single quotes, backslashes
escape elsewhere, and a text with anything else that a shell acts on is refused.

Reading undoes quoting, one word after the other: `read_quote` is the step, and `split_line` the whole
line. So the words of a command are those that it was made from, and none of their characters is acted
on.

Which words these are is said by `CompileCommand.Adds`, for each property by its name and its value: a list
is cut at its semicolons (`CompileCommand.Parts`), and each part that is not empty has a word.
`Build.commands_encode` says that every command of a build is read as these words, in the order of the
properties. A definition is the only word that is not in the value as it is: it has slashes for its
backslashes.
-/

namespace CompilationDatabase

namespace Text.ShellWord

/-! ## The reader -/

/-- Where the reader of a command line is. -/
inductive Mode
  /-- Between two words. -/
  | gap
  /-- In a word, outside quotes. -/
  | bare
  /-- After a backslash outside quotes. -/
  | escape
  /-- In single quotes. -/
  | single
  /-- In double quotes. -/
  | double
  /-- After a backslash in double quotes. -/
  | doubleEscape

/-- What ends a word. -/
def isGap (c : Char) : Bool := " \t\n".toList.contains c

/-- What a shell acts on outside quotes: operators, expansions, patterns and comments. -/
def isActive (c : Char) : Bool := "|&;<>()$`*?[]#~!\x7b\x7d".toList.contains c

/-- Characters put in front of the first word. -/
def extend (t : Text) : List Text → List Text
  | [] => []
  | word :: words => (t ++ word) :: words

/-- Goes on with a character that does not end a word, outside quotes. -/
def readBare (c : Char) (rest : Mode → Option (List Text)) : Option (List Text) :=
  if c = '\\' then rest .escape
  else if c = '\'' then rest .single
  else if c = '"' then rest .double
  else if isActive c then none
  else (rest .bare).map (extend [c])

/-- The words of what is left of a command line. The first one is the rest of the word that the reader
    is in. Nothing is read if a quote is not closed, a line is continued or a character is active. -/
def read : Mode → Text → Option (List Text)
  | .gap, [] => some []
  | .bare, [] => some [[]]
  | _, [] => none
  | .gap, c :: cs => if isGap c then read .gap cs else readBare c fun mode => read mode cs
  | .bare, c :: cs =>
    if isGap c then (read .gap cs).map ([] :: ·) else readBare c fun mode => read mode cs
  | .escape, c :: cs => if c = '\n' then none else (read .bare cs).map (extend [c])
  | .single, c :: cs => if c = '\'' then read .bare cs else (read .single cs).map (extend [c])
  | .double, c :: cs =>
    if c = '"' then read .bare cs
    else if c = '\\' then read .doubleEscape cs
    else if "$`".toList.contains c then none
    else (read .double cs).map (extend [c])
  | .doubleEscape, c :: cs =>
    if c = '\n' then none
    else if "$`\"\\".toList.contains c then (read .double cs).map (extend [c])
    else (read .double cs).map (extend ['\\', c])

/-- The words that a shell reads from a command line. -/
def split (t : Text) : Option (List Text) := read .gap t

/-! ## Reading what was quoted -/

theorem extend_nil : ∀ words, extend [] words = words
  | [] => rfl
  | _ :: _ => rfl

theorem map_extend_nil (words : Option (List Text)) : words.map (extend []) = words := by
  rw [show extend [] = id from funext extend_nil, Option.map_id_apply]

theorem extend_extend (a b : Text) : ∀ words, extend a (extend b words) = extend (a ++ b) words
  | [] => rfl
  | _ :: _ => congrArg (· :: _) (List.append_assoc ..).symm

theorem map_extend_extend (a b : Text) (words : Option (List Text)) :
    (words.map (extend b)).map (extend a) = words.map (extend (a ++ b)) := by
  rw [Option.map_map]
  exact congrArg (words.map ·) (funext (extend_extend a b))

/-- What a shell does not take for itself outside quotes is not plain. -/
theorem not_plain {c : Char} (h : c ∈ " \t\n\\'\"|&;<>()$`*?[]#~!\x7b\x7d".toList) :
    isPlain c = false := by
  have hall : " \t\n\\'\"|&;<>()$`*?[]#~!\x7b\x7d".toList.all (!isPlain ·) = true := by decide
  exact (Bool.not_eq_eq_eq_not).mp (List.all_eq_true.mp hall c h)

theorem isGap_of_isPlain {c : Char} (h : isPlain c = true) : isGap c = false := by
  rw [isGap, Bool.eq_false_iff, ne_eq, List.contains_iff_mem]
  intro hmem
  have hspecial := not_plain (c := c) (List.mem_append_left _ hmem)
  exact nomatch h.symm.trans hspecial

theorem readBare_of_isPlain {c : Char} (h : isPlain c = true) (rest : Mode → Option (List Text)) :
    readBare c rest = (rest .bare).map (extend [c]) := by
  have hne : ∀ d, isPlain d = false → c ≠ d := by
    rintro d hd rfl
    exact nomatch h.symm.trans hd
  have hactive : isActive c = false := by
    rw [isActive, Bool.eq_false_iff, ne_eq, List.contains_iff_mem]
    intro hmem
    have hspecial := not_plain (c := c) (List.mem_append_right " \t\n\\'\"".toList hmem)
    exact nomatch h.symm.trans hspecial
  rw [readBare, if_neg (hne '\\' (by decide)), if_neg (hne '\'' (by decide)),
    if_neg (hne '"' (by decide)), hactive]
  rfl

/-- Plain characters in a word stand for themselves. -/
theorem read_plain {t : Text} (h : ∀ c ∈ t, isPlain c = true) (rest : Text) :
    read .bare (t ++ rest) = (read .bare rest).map (extend t) := by
  induction t with
  | nil => exact (map_extend_nil _).symm
  | cons c cs ih =>
      have hc := h c List.mem_cons_self
      show read .bare (c :: (cs ++ rest)) = _
      rw [read, isGap_of_isPlain hc, if_neg Bool.false_ne_true, readBare_of_isPlain hc,
        ih fun c hc => h c (List.mem_cons_of_mem _ hc), map_extend_extend]
      rfl

/-- What was put in single quotes stands for itself, with its single quotes. -/
theorem read_quoted (t rest : Text) :
    read .single (t.flatMap quoteChar ++ '\'' :: rest) = (read .bare rest).map (extend t) := by
  induction t with
  | nil => exact (map_extend_nil _).symm
  | cons c cs ih =>
      rw [List.flatMap_cons, List.append_assoc, quoteChar]
      by_cases hc : c = '\''
      · -- the quotes are closed, and the single quote stands in double quotes
        subst hc
        rw [if_pos rfl]
        show (read .single (cs.flatMap quoteChar ++ '\'' :: rest)).map (extend ['\'']) = _
        rw [ih, map_extend_extend]
        rfl
      · rw [if_neg hc]
        show read .single (c :: (cs.flatMap quoteChar ++ '\'' :: rest)) = _
        rw [read, if_neg hc, ih, map_extend_extend]
        rfl

/-- A quoted text is read as the text, in a word or at the start of one. -/
theorem read_quote (t rest : Text) :
    read .gap (quote t ++ rest) = (read .bare rest).map (extend t) := by
  rw [quote]
  split
  · next hplain =>
    obtain ⟨hne, hall⟩ := Bool.and_eq_true_iff.mp hplain
    rw [List.all_eq_true] at hall
    cases t with
    | nil => exact nomatch hne
    | cons c cs =>
        have hc := hall c List.mem_cons_self
        show read .gap (c :: (cs ++ rest)) = _
        rw [read, isGap_of_isPlain hc, if_neg Bool.false_ne_true, readBare_of_isPlain hc,
          read_plain fun c hc => hall c (List.mem_cons_of_mem _ hc), map_extend_extend]
        rfl
  · show read .single (t.flatMap quoteChar ++ ['\''] ++ rest) = _
    rw [List.append_assoc]
    exact read_quoted t rest

/-- A command line is read as the words that it was made from. -/
theorem split_line (words : List Text) : split (line words) = some words := by
  induction words with
  | nil => rfl
  | cons word words ih =>
      cases words with
      | nil =>
          show read .gap (quote word ++ []) = _
          rw [read_quote]
          show some [word ++ []] = _
          rw [List.append_nil]
      | cons next words =>
          have hline : line (word :: next :: words) = quote word ++ ' ' :: line (next :: words) := rfl
          rw [split, hline, read_quote]
          show ((read .gap (line (next :: words))).map ([] :: ·)).map (extend word) = _
          rw [show read .gap (line (next :: words)) = _ from ih]
          show some ((word ++ []) :: next :: words) = _
          rw [List.append_nil]

example : split "clang -I'a b'\\ c \"-D\\$X\"\t".toList
    = some ["clang".toList, "-Ia b c".toList, "-D$X".toList] := by decide

example : split (line ["a b".toList, [], "it's \"$HOME\"\n".toList])
    = some ["a b".toList, [], "it's \"$HOME\"\n".toList] := by decide

end Text.ShellWord

/-! ## The words of a command -/

namespace CompileCommand

/-- A list of values, and the parts of it between semicolons. -/
structure Parts (value : Text) (parts : List Text) : Prop where
  nonempty : parts ≠ []
  whole    : ∀ part ∈ parts, ';' ∉ part
  joined   : Text.join ';' parts = value

/-- A value has its parts in one way only. -/
theorem Parts.eq_pieces {value : Text} {parts : List Text} (h : Parts value parts) :
    parts = value.pieces ';' := by
  rw [← h.joined, Text.pieces_join_of_not_mem h.nonempty h.whole]

/-- Every value has parts. -/
theorem parts_pieces (value : Text) : Parts value (value.pieces ';') where
  nonempty := Text.pieces_ne_nil ';' value
  whole _ hpart := Text.not_mem_of_mem_pieces hpart
  joined := Text.join_pieces ';' value

/-- A text with slashes in place of its backslashes. -/
def slashed (t : Text) : Text := t.map fun c => if c = '\\' then '/' else c

/-- What the compiler calls a language standard. -/
inductive StandardName : (value standard : Text) → Prop
  | cpp14 : StandardName "stdcpp14".toList "c++14".toList
  | cpp17 : StandardName "stdcpp17".toList "c++17".toList
  | cpp20 : StandardName "stdcpp20".toList "c++20".toList
  | latest : StandardName "stdcpplatest".toList "c++20".toList
  /-- One standard takes the place of all that are not known. -/
  | unknown {value : Text}
      (h : value ∉ ["stdcpp14", "stdcpp17", "stdcpp20", "stdcpplatest"].map String.toList) :
      StandardName value "c++14".toList

/-- The words that a property adds to a command. The names of properties match in all letter cases. -/
inductive Adds (directory : Text) (e : Entry) : List Text → Prop
  /-- Include directories are made relative; each has a word, unless it is empty. -/
  | includes (h : e.name.lower = "additionalincludedirectories".toList) {parts : List Text}
      (hparts : Parts e.value parts) :
      Adds directory e ((parts.filter (· ≠ [])).map ("-I".toList ++ relativePath directory ·))
  /-- A language standard goes by the name that the compiler has for it. -/
  | standard (h : e.name.lower = "languagestandard".toList) {standard : Text}
      (hname : StandardName e.value standard) : Adds directory e ["-std=".toList ++ standard]
  /-- Definitions have a word each, unless they are empty, with slashes for backslashes. -/
  | definitions (h : e.name.lower = "preprocessordefinitions".toList) {parts : List Text}
      (hparts : Parts e.value parts) :
      Adds directory e ((parts.filter (· ≠ [])).map ("-D".toList ++ slashed ·))
  /-- Warnings are errors if it says so, in all letter cases. -/
  | warnings (h : e.name.lower = "treatwarningaserror".toList)
      (htrue : e.value.lower = "true".toList) :
      Adds directory e ["-Werror".toList]
  | noWarnings (h : e.name.lower = "treatwarningaserror".toList)
      (htrue : e.value.lower ≠ "true".toList) :
      Adds directory e []
  /-- No other property adds anything. -/
  | other (hincludes : e.name.lower ≠ "additionalincludedirectories".toList)
      (hstandard : e.name.lower ≠ "languagestandard".toList)
      (hdefinitions : e.name.lower ≠ "preprocessordefinitions".toList)
      (hwarnings : e.name.lower ≠ "treatwarningaserror".toList) :
      Adds directory e []

/-- The compiler has a name for every standard, and it is the one that is looked up. -/
theorem standardName_lookup (value : Text) :
    StandardName value ((standards.lookup value).getD defaultStandard) := by
  cases hlookup : standards.lookup value with
  | none =>
      refine .unknown fun hmem => ?_
      obtain ⟨known, hknown, rfl⟩ := List.mem_map.mp hmem
      have hrows : (["stdcpp14", "stdcpp17", "stdcpp20", "stdcpplatest"].all fun known =>
          (standards.lookup known.toList).isSome) = true := by decide
      have hfound := List.all_eq_true.mp hrows known hknown
      rw [hlookup] at hfound
      exact nomatch hfound
  | some standard =>
      have hrow := Text.mem_of_lookup hlookup
      simp only [standards, List.mem_cons, Prod.mk.injEq, List.not_mem_nil, or_false] at hrow
      rcases hrow with ⟨rfl, rfl⟩ | ⟨rfl, rfl⟩ | ⟨rfl, rfl⟩ | ⟨rfl, rfl⟩
      · exact .cpp14
      · exact .cpp17
      · exact .cpp20
      · exact .latest

/-- What a property adds is told by its name and its value. -/
theorem adds_propertyWords (directory : Text) (e : Entry) :
    Adds directory e (propertyWords directory e) := by
  rw [propertyWords]
  by_cases hincludes : e.name.lower = "additionalincludedirectories".toList
  · rw [if_pos hincludes]
    exact .includes hincludes (parts_pieces e.value)
  rw [if_neg hincludes]
  by_cases hstandard : e.name.lower = "languagestandard".toList
  · rw [if_pos hstandard]
    exact .standard hstandard (standardName_lookup e.value)
  rw [if_neg hstandard]
  by_cases hdefinitions : e.name.lower = "preprocessordefinitions".toList
  · rw [if_pos hdefinitions]
    exact .definitions hdefinitions (parts_pieces e.value)
  rw [if_neg hdefinitions]
  by_cases hwarnings : e.name.lower = "treatwarningaserror".toList
  · rw [if_pos hwarnings]
    by_cases htrue : e.value.lower = "true".toList
    · rw [if_pos htrue]
      exact .warnings hwarnings htrue
    · rw [if_neg htrue]
      exact .noWarnings hwarnings htrue
  · rw [if_neg hwarnings]
    exact .other hincludes hstandard hdefinitions hwarnings

/-- A standard has one name. -/
theorem StandardName.eq_lookup {value standard : Text} (h : StandardName value standard) :
    standard = (standards.lookup value).getD defaultStandard := by
  cases h with
  | unknown hunknown =>
      have hnone : standards.lookup value = none := by
        rw [List.lookup_eq_none_iff]
        intro row hrow
        have hnames : standards.map (·.1)
            = ["stdcpp14", "stdcpp17", "stdcpp20", "stdcpplatest"].map String.toList := rfl
        rw [← hnames] at hunknown
        refine bne_iff_ne.mpr ?_
        rintro rfl
        exact hunknown (List.mem_map_of_mem hrow)
      rw [hnone]
      rfl
  | _ => decide

/-- A property adds words in one way only. -/
theorem Adds.eq_propertyWords {directory : Text} {e : Entry} {added : List Text}
    (h : Adds directory e added) : added = propertyWords directory e := by
  cases h with
  | includes hname hparts =>
      rw [hparts.eq_pieces, propertyWords, hname]
      rfl
  | standard hname hstandard =>
      rw [hstandard.eq_lookup, propertyWords, hname]
      rfl
  | definitions hname hparts =>
      rw [hparts.eq_pieces, propertyWords, hname]
      rfl
  | warnings hname htrue =>
      rw [propertyWords, hname, htrue]
      rfl
  | noWarnings hname htrue =>
      rw [propertyWords, hname]
      exact (if_neg htrue).symm
  | other hincludes hstandard hdefinitions hwarnings =>
      rw [propertyWords, if_neg hincludes, if_neg hstandard, if_neg hdefinitions, if_neg hwarnings]

/-- What the command of an entry is for a shell: the compiler, the language, what each property adds,
    in the order of the properties, and the file of the entry. There is one way only in which the
    properties add words. -/
def Encodes (directory : Text) (properties : PropertyTable) (c : CompileCommand) : Prop :=
  ∃ added : List (List Text), List.Forall₂ (Adds directory) properties.entries added ∧
    (∀ other, List.Forall₂ (Adds directory) properties.entries other → other = added) ∧
    Text.ShellWord.split c.command
      = some (["clang".toList, "-c".toList,
          if properties.get? "CompileAs".toList = some "CompileAsC".toList then "-xc".toList
          else "-xc++".toList] ++ added.flatten ++ [c.file])

theorem encodes_ofItem (directory : Text) (store : PropertyStore) (item : Item) :
    Encodes directory (item.properties store) (ofItem directory store item) := by
  refine ⟨(item.properties store).entries.map (propertyWords directory), ?_, ?_, ?_⟩
  · rw [List.forall₂_map_right_iff, List.forall₂_same]
    exact fun e _ => adds_propertyWords directory e
  · intro other hother
    have hwords := hother.imp fun _ _ hadds => hadds.eq_propertyWords.symm
    rw [← List.forall₂_map_left_iff, List.forall₂_eq_eq_eq] at hwords
    exact hwords.symm
  · show Text.ShellWord.split (Text.ShellWord.line _) = _
    rw [Text.ShellWord.split_line, words, language, ← List.flatMap_def]
    split <;> rfl

end CompileCommand

namespace Build

variable {m : Matching}

/-- The items that are compiled, sources and headers, each with its project. -/
def compiled (b : Build m) : List (Project × Item) :=
  b.projects.flatMap fun p =>
    (p.items.filter fun i => i.type = "ClCompile".toList ∨ i.type = "ClInclude".toList).map (p, ·)

/-- A build has one entry for each item that is compiled, in their order. -/
theorem commands_eq (b : Build m) :
    b.commands = b.compiled.map fun x => CompileCommand.ofItem b.root.text x.1.store x.2 := by
  have htypes (i : Item) : CompileCommand.compiledTypes.contains i.type
      = decide (i.type = "ClCompile".toList ∨ i.type = "ClInclude".toList) := by
    rw [Bool.eq_iff_iff, List.contains_iff_mem, decide_eq_true_iff]
    exact List.mem_pair
  rw [commands, compiled, List.map_flatMap]
  simp only [CompileCommand.ofItems, htypes, List.map_map]
  rfl

/-- What holds of each entry that is made from an item holds of all entries of a build. -/
theorem forall₂_commands {b : Build m} {R : Project × Item → CompileCommand → Prop}
    (h : ∀ x ∈ b.compiled, R x (CompileCommand.ofItem b.root.text x.1.store x.2)) :
    List.Forall₂ R b.compiled b.commands := by
  rw [commands_eq, List.forall₂_map_right_iff, List.forall₂_same]
  exact h

/-- **Commands are read as the words that the properties call for.** A build has one entry for each item
    that is compiled, in their order. A shell cuts its command into the compiler, the language, the
    words of each property in their order, and the file of the entry, whatever their characters are:
    all of them are as they were, but for the backslashes of definitions, which are slashes. -/
theorem commands_encode (b : Build m) :
    List.Forall₂ (fun x c => CompileCommand.Encodes b.root.text (x.2.properties x.1.store) c)
      b.compiled b.commands :=
  forall₂_commands fun x _ => CompileCommand.encodes_ofItem b.root.text x.1.store x.2

/-- A build with one item, which has a definition with a backslash in it. -/
def backslashBuild : Build .ignoringCase where
  path := ⟨['/'], [['r'], "s.sln".toList]⟩
  macros := .empty
  projects := [{
    name := ['p']
    path := ⟨['/'], [['r'], "p.vcxproj".toList]⟩
    macros := .empty
    items := [{ type := "ClCompile".toList, identity := "f.c".toList, projectDir := "/r".toList,
                table := 0, owns := true }]
    store := ⟨#[⟨.ignoringCase, .ofList [⟨"PreprocessorDefinitions".toList, "A=a\\b".toList⟩]⟩]⟩ }]

/-- The word of a definition is not the definition as it was written. -/
theorem exists_altered_definition :
    ∃ c, backslashBuild.commands = [c] ∧ Text.ShellWord.split c.command
        = some (["clang", "-c", "-xc++", "-DA=a/b", "f.c"].map String.toList) ∧
      "-DA=a\\b".toList ∉ ["clang", "-c", "-xc++", "-DA=a/b", "f.c"].map String.toList :=
  ⟨_, rfl, by decide +kernel, by decide⟩

end Build

end CompilationDatabase
