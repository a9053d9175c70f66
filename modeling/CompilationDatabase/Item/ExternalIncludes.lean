import CompilationDatabase.Text.Case.Partner
import CompilationDatabase.Text.Word

/-!
# External include options

Among the options of an item, `/external:I` in any letter cases names an include directory: the word
that follows it. `ExternalIncludes.takeOut` cuts them out one after the other, from left to right.
-/

namespace CompilationDatabase.ExternalIncludes

/-- The option that names an include directory. -/
def option : Text := "/external:I".toList

theorem length_of_afterWord? {word t rest : Text} (h : Text.afterWord? word t = some rest) :
    word.length + rest.length = t.length := by
  induction word generalizing t with
  | nil => simp_all [Text.afterWord?]
  | cons w ws ih =>
    cases t with
    | nil => simp [Text.afterWord?] at h
    | cons c cs =>
      rw [Text.afterWord?] at h
      split at h
      · have := ih h
        simp only [List.length_cons]
        omega
      · simp at h

theorem length_of_breakAtWord? {word t before after : Text}
    (h : Text.breakAtWord? word t = some (before, after)) :
    before.length + word.length + after.length = t.length := by
  induction t generalizing before with
  | nil =>
    rw [Text.breakAtWord?] at h
    split at h
    · next hw =>
      simp only [Option.some.injEq, Prod.mk.injEq] at h
      simp [← h.1, ← h.2, List.isEmpty_iff.1 hw]
    · simp at h
  | cons c cs ih =>
    rw [Text.breakAtWord?] at h
    split at h
    · next rest hr =>
      simp only [Option.some.injEq, Prod.mk.injEq] at h
      obtain ⟨rfl, rfl⟩ := h
      have := length_of_afterWord? hr
      simpa using this
    · simp only [Option.map_eq_some_iff, Prod.mk.injEq] at h
      obtain ⟨⟨b, a⟩, hba, rfl, rfl⟩ := h
      have : b.length + word.length + a.length = cs.length := ih hba
      simp only [List.length_cons]
      omega

/-- Takes out the options that start at a position or after it: each is cut out of the whole text with
    its word, and the search goes on where it stood. The directories are added to those before them. -/
def takeFrom (position : Nat) (directories : List Text) (options : Text) : List Text × Text :=
  match _h : Text.breakAtWord? option (options.drop position) with
  | none => (directories, options)
  | some (before, after) =>
    let start := position + before.length
    let found := Text.nextWord after
    takeFrom start (directories ++ [found.1]) (options.take start ++ found.2)
termination_by options.length
decreasing_by
  have := length_of_breakAtWord? _h
  have := Text.length_nextWord_le after
  have : option.length = 11 := by decide
  simp only [List.length_append, List.length_take, List.length_drop] at *
  omega

/-- The directories that the options name, in order, and the options without them. -/
def takeOut (options : Text) : List Text × Text := takeFrom 0 [] options

/-- A list of directories with another one in front. -/
def prepend (directories directory : Text) : Text :=
  if directories = [] then directory else directory ++ ';' :: directories

end CompilationDatabase.ExternalIncludes
