import CompilationDatabase.Command.Basic
import CompilationDatabase.Proofs.Pieces

/-!
# Relative paths — what the paths in a command denote

A path below the directory of the build is written relative to it: the text of the directory is cut
off. What is left denotes the same file, read from that directory, as long as it does not start with a
separator itself; then it is read from the root of all files instead.

What a path denotes depends on its root and its steps alone (`normalizeText_congr`), and a path taken
from a directory has the root of the directory, and the steps of both (`steps_joinText`).
-/

namespace CompilationDatabase

namespace Path

/-! ## Roots and steps -/

/-- A separator divides the steps of a path. -/
theorem steps_append (a b : Text) : steps (a ++ separator :: b) = steps a ++ steps b := by
  rw [steps, Text.pieces_append, List.filter_append]
  rfl

theorem steps_of_all_separator {t : Text} (h : ∀ c ∈ t, c = separator) : steps t = [] := by
  induction t with
  | nil => rfl
  | cons c cs ih =>
      obtain rfl := h c List.mem_cons_self
      show steps ([] ++ separator :: cs) = []
      rw [steps_append, ih fun c hc => h c (List.mem_cons_of_mem _ hc)]
      rfl

/-- Separators at the end of a path do not matter. -/
theorem steps_append_separators {a tail : Text} (h : ∀ c ∈ tail, c = separator) :
    steps (a ++ tail) = steps a := by
  cases tail with
  | nil => rw [List.append_nil]
  | cons c cs =>
      obtain rfl := h c List.mem_cons_self
      rw [steps_append, steps_of_all_separator fun c hc => h c (List.mem_cons_of_mem _ hc),
        List.append_nil]

/-- The root of a path is told by what comes before its first component. -/
theorem rootText_append {a : Text} (h : ∃ c ∈ a, c ≠ separator) (b : Text) :
    rootText (a ++ b) = rootText a := by
  have hlength : (a.takeWhile (· = separator)).length ≠ a.length := by
    intro hall
    obtain ⟨c, hc, hne⟩ := h
    have hself : a.takeWhile (· = separator) = a :=
      (List.takeWhile_prefix _).eq_of_length hall
    exact hne (of_decide_eq_true (List.takeWhile_eq_self_iff.mp hself c hc))
  rw [rootText, List.takeWhile_append, if_neg hlength]
  rfl

/-- Paths with the same root and the same steps are the same when they are normalised. -/
theorem normalizeText_congr {p q : Text} (hroot : rootText p = rootText q)
    (hsteps : steps p = steps q) : normalizeText p = normalizeText q := by
  rw [normalizeText, normalizeText, hroot, hsteps]

/-! ## Paths taken from a directory -/

theorem joinText_of_absolute {path : Text} (h : path.head? = some separator) (directory : Text) :
    joinText directory path = path := by
  rw [joinText, if_pos h]

/-- A relative path comes after the directory, and after separators. -/
theorem exists_joinText {path : Text} (h : path.head? ≠ some separator) (directory : Text) :
    ∃ b, joinText directory path = directory ++ b := by
  rw [joinText, if_neg h]
  split
  · exact ⟨path, rfl⟩
  · exact ⟨separator :: path, rfl⟩

/-- A relative path goes on from the steps of the directory. -/
theorem steps_joinText {directory path : Text} (h : path.head? ≠ some separator) :
    steps (joinText directory path) = steps directory ++ steps path := by
  rw [joinText, if_neg h]
  split
  · next hclosed =>
    rcases Bool.or_eq_true_iff.mp hclosed with hempty | hlast
    · rw [List.isEmpty_iff.mp hempty]
      rfl
    · obtain ⟨before, rfl⟩ := List.getLast?_eq_some_iff.mp (of_decide_eq_true hlast)
      rw [List.append_assoc, List.singleton_append, steps_append,
        steps_append_separators (List.forall_mem_singleton.mpr rfl)]
  · exact steps_append directory path

/-! ## Separators of both kinds -/

theorem native_of_not_mem {path : Text} (h : '\\' ∉ path) : native path = path := by
  refine (List.map_congr_left fun c hc => ?_).trans (List.map_id path)
  have hc' : c ≠ '\\' := fun heq => h (heq ▸ hc)
  exact if_neg hc'

theorem native_append (a b : Text) : native (a ++ b) = native a ++ (native b) :=
  Text.replace_append ..

end Path

/-! ## Paths below a directory -/

namespace CompileCommand

open CompilationDatabase.Path

/-- The text that is cut off from the paths below a directory. -/
def baseText (directory : Text) : Text :=
  directory.dropEndWhile (fun c => c = '\\' || c = '/') ++ [separator]

theorem relativePath_of_below (directory rest : Text) :
    relativePath directory (baseText directory ++ rest) = native rest := by
  rw [relativePath]
  show native (((baseText directory).isPrefixOf? (baseText directory ++ rest)).getD _) = _
  rw [Text.isPrefixOf?_eq_some.mpr rfl]
  rfl

theorem relativePath_of_not_below {directory path : Text}
    (h : ∀ rest, path ≠ baseText directory ++ rest) : relativePath directory path = native path := by
  rw [relativePath]
  show native (((baseText directory).isPrefixOf? path).getD path) = native path
  cases hp : (baseText directory).isPrefixOf? path with
  | none => rfl
  | some rest => exact absurd (Text.isPrefixOf?_eq_some.mp hp) (h rest)

variable {directory : Text}

/-- The directory is what is cut off, and separators. -/
theorem baseText_spec (hslashes : '\\' ∉ directory) :
    ∃ base tail, baseText directory = base ++ [separator] ∧ directory = base ++ tail ∧
      ∀ c ∈ tail, c = separator := by
  obtain ⟨tail, hdirectory, htail⟩ :=
    Text.exists_dropEndWhile (fun c => c = '\\' || c = '/') directory
  refine ⟨_, tail, rfl, hdirectory, fun c hc => ?_⟩
  rcases Bool.or_eq_true_iff.mp (htail c hc) with hback | hslash
  · have hmem : c ∈ directory := by
      rw [hdirectory]
      exact List.mem_append_right _ hc
    exact absurd (of_decide_eq_true hback ▸ hmem) hslashes
  · exact of_decide_eq_true hslash

/-- A path below an absolute directory is absolute. -/
theorem head?_below (habsolute : directory.head? = some separator)
    (hcomponent : ∃ c ∈ directory, c ≠ separator) (hslashes : '\\' ∉ directory) (rest : Text) :
    (native (baseText directory ++ rest)).head? = some separator := by
  obtain ⟨base, tail, hbaseText, rfl, htail⟩ := baseText_spec hslashes
  cases base with
  | nil =>
      obtain ⟨c, hc, hne⟩ := hcomponent
      exact absurd (htail c hc) hne
  | cons c cs =>
      obtain rfl : c = separator := Option.some.inj habsolute
      rw [hbaseText]
      rfl

/-- Below a directory, what is left of a path denotes the path unless it is absolute. -/
theorem normalizeText_below (hcomponent : ∃ c ∈ directory, c ≠ separator)
    (hslashes : '\\' ∉ directory) {rest : Text} (hrest : (native rest).head? ≠ some separator) :
    normalizeText (joinText directory (native rest))
      = normalizeText (native (baseText directory ++ rest)) := by
  obtain ⟨base, tail, hbaseText, rfl, htail⟩ := baseText_spec hslashes
  have hbase : ∃ c ∈ base, c ≠ separator := by
    obtain ⟨c, hc, hne⟩ := hcomponent
    refine ⟨c, (List.mem_append.mp hc).resolve_right fun hmem => hne (htail c hmem), hne⟩
  have hnative : native (baseText (base ++ tail) ++ rest) = base ++ separator :: native rest := by
    rw [hbaseText, native_append, native_append,
      native_of_not_mem fun hmem => hslashes (List.mem_append_left _ hmem), List.append_assoc]
    rfl
  rw [hnative]
  apply normalizeText_congr
  · obtain ⟨b, hb⟩ := exists_joinText hrest (base ++ tail)
    rw [hb, List.append_assoc, rootText_append hbase, rootText_append hbase]
  · rw [steps_joinText hrest, steps_append_separators htail, steps_append]

/-- Reading a path of a command from the directory of the build gives the path that it was made from,
    unless something absolute is left when the directory is cut off. Then it gives what is left. -/
theorem relativePath_denotes (habsolute : directory.head? = some separator)
    (hcomponent : ∃ c ∈ directory, c ≠ separator) (hslashes : '\\' ∉ directory) (path : Text) :
    ((∀ rest, path = baseText directory ++ rest → (native rest).head? ≠ some separator) →
      normalizeText (joinText directory (relativePath directory path))
        = normalizeText (joinText directory (native path))) ∧
    ∀ rest, path = baseText directory ++ rest → (native rest).head? = some separator →
      joinText directory (relativePath directory path) = native rest := by
  refine ⟨fun hrest => ?_, ?_⟩
  · by_cases hbelow : ∃ rest, path = baseText directory ++ rest
    · obtain ⟨rest, rfl⟩ := hbelow
      rw [relativePath_of_below, normalizeText_below hcomponent hslashes (hrest rest rfl),
        joinText_of_absolute (head?_below habsolute hcomponent hslashes rest)]
    · rw [relativePath_of_not_below fun rest heq => hbelow ⟨rest, heq⟩]
  · rintro rest rfl hrest
    rw [relativePath_of_below, joinText_of_absolute hrest]

/-- A path below a directory that ends in separators, in backslashes and with two dots. -/
theorem relativePath_denotes_closedDirectory :
    normalizeText (joinText "/w/d//".toList (relativePath "/w/d//".toList "/w/d/a\\..\\b".toList))
      = normalizeText (joinText "/w/d//".toList (native "/w/d/a\\..\\b".toList)) := by
  refine (relativePath_denotes (by decide) ⟨'w', by decide, by decide⟩ (by decide) _).1 ?_
  intro rest hrest
  have hbelow : "/w/d/a\\..\\b".toList = baseText "/w/d//".toList ++ "a\\..\\b".toList := by decide
  obtain rfl := List.append_cancel_left (hbelow.symm.trans hrest)
  decide

/-- A separator that is written twice turns a path below the directory into one below the root. -/
theorem relativePath_repeatedSeparator :
    normalizeText (joinText "/w".toList (relativePath "/w".toList "/w//inc".toList))
      ≠ normalizeText (joinText "/w".toList (native "/w//inc".toList)) := by
  decide

end CompileCommand

end CompilationDatabase
