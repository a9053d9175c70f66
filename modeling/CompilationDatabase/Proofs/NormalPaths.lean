import CompilationDatabase.Path.Basic
import CompilationDatabase.Proofs.RelativePaths

/-!
# Normal paths — normalising once is enough

Going along the components of an absolute path never leaves two dots behind: either there is a
component that they take back, or they stay at the root (`real_advance`). So a path that was normalised
has only components that name something, and normalising it again goes through them without taking any
back (`normalizeText_normalizeText`).
-/

namespace CompilationDatabase.Path

/-- Whether a component can stand in a path: it names something, and has no separator. -/
def IsComponent (component : Text) : Prop := isStep component = true ∧ separator ∉ component

/-- Whether a component is a name: no dots that lead back, and no separator. -/
def IsReal (component : Text) : Prop :=
  isStep component = true ∧ component ≠ ['.', '.'] ∧ separator ∉ component

theorem IsReal.isComponent {component : Text} (h : IsReal component) : IsComponent component :=
  ⟨h.1, h.2.2⟩

theorem isComponent_of_real {parts : List Text} (h : ∀ part ∈ parts, IsReal part) :
    ∀ part ∈ parts, IsComponent part :=
  fun part hpart => (h part hpart).isComponent

theorem of_mem_steps {t component : Text} (h : component ∈ steps t) : IsComponent component := by
  obtain ⟨hpieces, hstep⟩ := List.mem_filter.mp h
  exact ⟨hstep, Text.not_mem_of_mem_pieces hpieces⟩

theorem IsComponent.steps_eq {component : Text} (h : IsComponent component) :
    steps component = [component] := by
  rw [steps, Text.pieces_of_not_mem h.2]
  exact List.filter_cons_of_pos h.1

/-- Components that are joined are found again. -/
theorem steps_join {parts : List Text} (h : ∀ part ∈ parts, IsComponent part) :
    steps (Text.join separator parts) = parts := by
  induction parts with
  | nil => rfl
  | cons part parts ih =>
      obtain ⟨hpart, hparts⟩ := List.forall_mem_cons.mp h
      cases parts with
      | nil =>
          have hjoin : Text.join separator [part] = part := by simp [Text.join]
          rw [hjoin, hpart.steps_eq]
      | cons next parts =>
          rw [Text.join_cons separator part (List.cons_ne_nil _ _), steps_append,
            hpart.steps_eq, ih hparts]
          rfl

/-! ## Roots -/

/-- The roots that a path can have. -/
def IsRoot (root : Text) : Prop := root = [separator] ∨ root = [separator, separator]

theorem isRoot_rootText {t : Text} (h : t.head? = some separator) : IsRoot (rootText t) := by
  cases t with
  | nil => exact nomatch h
  | cons c t =>
      obtain rfl : c = separator := Option.some.inj h
      rw [rootText, List.takeWhile_cons_of_pos (by simp), List.length_cons]
      rcases (t.takeWhile (· = separator)).length with _ | _ | n
      · exact Or.inl rfl
      · exact Or.inr rfl
      · exact Or.inl rfl

/-- Components that are joined do not start with a separator. -/
theorem head?_join {parts : List Text} (h : ∀ part ∈ parts, IsComponent part) :
    (Text.join separator parts).head? ≠ some separator := by
  cases parts with
  | nil => exact nofun
  | cons part parts =>
      obtain ⟨hstep, hmem⟩ := h part List.mem_cons_self
      cases part with
      | nil => exact absurd hstep (by decide)
      | cons c part =>
          intro hc
          have hjoin : (Text.join separator ((c :: part) :: parts)).head? = some c := by
            cases parts <;> simp [Text.join, List.intercalate_cons_cons]
          rw [hjoin] at hc
          exact hmem (Option.some.inj hc ▸ List.mem_cons_self)

theorem takeWhile_separator {path : Text} (h : path.head? ≠ some separator) :
    path.takeWhile (· = separator) = [] := by
  cases path with
  | nil => rfl
  | cons c t => exact List.takeWhile_cons_of_neg (by simpa using h)

theorem rootText_of_relative {path : Text} (h : path.head? ≠ some separator) : rootText path = [] := by
  rw [rootText, takeWhile_separator h]
  rfl

/-- A root is told from what comes after it if that does not start with a separator. -/
theorem rootText_root_append {root path : Text} (hroot : IsRoot root)
    (h : path.head? ≠ some separator) : rootText (root ++ path) = root := by
  rcases hroot with rfl | rfl <;> simp [rootText, takeWhile_separator h]

theorem rootText_append_join {root : Text} {parts : List Text} (hroot : IsRoot root)
    (h : ∀ part ∈ parts, IsComponent part) : rootText (root ++ Text.join separator parts) = root :=
  rootText_root_append hroot (head?_join h)

theorem steps_append_root {root : Text} (hroot : IsRoot root) (t : Text) :
    steps (root ++ t) = steps t := by
  rcases hroot with rfl | rfl
  · exact steps_append [] t
  · exact (steps_append [separator] t).trans rfl

/-! ## Going along an absolute path -/

theorem real_advance {back : List Text} {component : Text} (hback : ∀ part ∈ back, IsReal part)
    (hcomponent : IsComponent component) :
    ∀ part ∈ advance true back component, IsReal part := by
  rw [advance.eq_def]
  by_cases hdots : component = ['.', '.']
  · rw [if_neg (not_not.mpr hdots)]
    cases back with
    | nil => exact nofun
    | cons last rest =>
        obtain ⟨hlast, hrest⟩ := List.forall_mem_cons.mp hback
        dsimp only
        rw [if_neg hlast.2.1]
        exact hrest
  · rw [if_pos hdots]
    exact List.forall_mem_cons.mpr ⟨⟨hcomponent.1, hdots, hcomponent.2⟩, hback⟩

theorem real_foldl_advance {components back : List Text} (hback : ∀ part ∈ back, IsReal part)
    (h : ∀ component ∈ components, IsComponent component) :
    ∀ part ∈ components.foldl (advance true) back, IsReal part := by
  induction components generalizing back with
  | nil => exact hback
  | cons component components ih =>
      obtain ⟨hfirst, hrest⟩ := List.forall_mem_cons.mp h
      exact ih (real_advance hback hfirst) hrest

/-- Real components are not taken back. -/
theorem foldl_advance_of_real {components : List Text} (h : ∀ part ∈ components, IsReal part)
    (back : List Text) : components.foldl (advance true) back = components.reverse ++ back := by
  induction components generalizing back with
  | nil => rfl
  | cons component components ih =>
      obtain ⟨hfirst, hrest⟩ := List.forall_mem_cons.mp h
      rw [List.foldl_cons, ih hrest, advance.eq_def, if_pos hfirst.2.1, List.reverse_cons]
      simp

/-- An absolute path is normalised to its root and components that are names. -/
theorem exists_normalizeText {t : Text} (h : t.head? = some separator) :
    ∃ parts, (∀ part ∈ parts, IsReal part) ∧
      normalizeText t = rootText t ++ Text.join separator parts := by
  have hroot : (rootText t).isEmpty = false := by
    rcases isRoot_rootText h with hroot | hroot <;> rw [hroot] <;> rfl
  refine ⟨((steps t).foldl (advance true) []).reverse, ?_, ?_⟩
  · intro part hpart
    have hempty : ∀ part ∈ ([] : List Text), IsReal part := nofun
    exact real_foldl_advance hempty (fun _ hc => of_mem_steps hc) part (List.mem_reverse.mp hpart)
  · rw [normalizeText, hroot]
    simp only [Bool.not_false]
    rw [if_neg]
    rcases isRoot_rootText h with hroot | hroot <;> simp [hroot]

theorem normalizeText_of_real {root : Text} {parts : List Text} (hroot : IsRoot root)
    (h : ∀ part ∈ parts, IsReal part) :
    normalizeText (root ++ Text.join separator parts) = root ++ Text.join separator parts := by
  have hempty : root.isEmpty = false := by rcases hroot with rfl | rfl <;> rfl
  have hcomponents := isComponent_of_real h
  rw [normalizeText, rootText_append_join hroot hcomponents, steps_append_root hroot,
    steps_join hcomponents, hempty]
  simp only [Bool.not_false, foldl_advance_of_real h, List.append_nil, List.reverse_reverse]
  rw [if_neg]
  rcases hroot with rfl | rfl <;> simp

/-- Normalising a path that was absolute and normalised changes nothing. -/
theorem normalizeText_normalizeText {t : Text} (h : t.head? = some separator) :
    normalizeText (normalizeText t) = normalizeText t := by
  obtain ⟨parts, hparts, heq⟩ := exists_normalizeText h
  rw [heq, normalizeText_of_real (isRoot_rootText h) hparts]

theorem text_of_isRoot {p : Path} (h : IsRoot p.root) :
    p.text = p.root ++ Text.join separator p.parts := by
  rw [text]
  rcases h with h | h <;> simp [h]

/-- A root and components are read again. -/
theorem ofText_join {root : Text} {parts : List Text} (hroot : IsRoot root)
    (h : ∀ part ∈ parts, IsComponent part) :
    ofText (root ++ Text.join separator parts) = ⟨root, parts⟩ := by
  rw [ofText, rootText_append_join hroot h, steps_append_root hroot, steps_join h]

theorem text_ofText_join {root : Text} {parts : List Text} (hroot : IsRoot root)
    (h : ∀ part ∈ parts, IsComponent part) :
    (ofText (root ++ Text.join separator parts)).text = root ++ Text.join separator parts := by
  rw [ofText_join hroot h, text_of_isRoot hroot]

/-- A path that is normalised is as it is written. -/
theorem text_normalized {p : Path} (h : p.text.head? = some separator) :
    p.normalized.text = normalizeText p.text := by
  obtain ⟨parts, hparts, heq⟩ := exists_normalizeText h
  rw [normalized, heq, text_ofText_join (isRoot_rootText h) (isComponent_of_real hparts)]

theorem isAbsolute_normalized {p : Path} (h : p.text.head? = some separator) :
    p.normalized.isAbsolute = true := by
  obtain ⟨parts, hparts, heq⟩ := exists_normalizeText h
  have hroot := isRoot_rootText h
  rw [normalized, heq, isAbsolute, ofText_join hroot (isComponent_of_real hparts)]
  rcases hroot with hroot | hroot <;> rw [hroot] <;> rfl

/-! ## Paths that start at the root -/

theorem head?_text {p : Path} (h : p.root.head? = some separator) : p.text.head? = some separator := by
  obtain ⟨root, parts⟩ := p
  cases root with
  | nil => exact nomatch h
  | cons c root => exact h

/-- What is taken from a directory that starts at the root does so too. -/
theorem head?_root_join {directory : Path} (h : directory.root.head? = some separator) (t : Text) :
    (directory.join (ofText t)).root.head? = some separator := by
  rw [join]
  by_cases ht : (ofText t).isAbsolute = true
  · rw [if_pos ht]
    show (rootText t).head? = some separator
    have hne : rootText t ≠ [] := by
      intro hnil
      rw [isAbsolute, ofText, hnil] at ht
      exact nomatch ht
    rw [rootText] at hne ⊢
    split
    · rename_i hzero
      simp [hzero] at hne
    · rfl
    · rfl
  · rw [if_neg ht]
    exact h

/-- A normal path that starts at the root has components that are names. -/
theorem real_of_normalized {p : Path} (h : p.root.head? = some separator) (hnormal : p.normalized = p) :
    IsRoot p.root ∧ ∀ part ∈ p.parts, IsReal part := by
  have hhead := head?_text h
  obtain ⟨parts, hparts, heq⟩ := exists_normalizeText hhead
  rw [normalized, heq, ofText_join (isRoot_rootText hhead) (isComponent_of_real hparts)] at hnormal
  rw [← hnormal]
  exact ⟨isRoot_rootText hhead, hparts⟩

/-- A path is read again from its text. -/
theorem ofText_text {p : Path} (hroot : IsRoot p.root) (hparts : ∀ part ∈ p.parts, IsComponent part) :
    ofText p.text = p := by
  rw [text_of_isRoot hroot, ofText_join hroot hparts]

/-- A relative path has the root of the directory that it is taken from. -/
theorem rootText_joinText {directory : Path} (hroot : IsRoot directory.root)
    (hparts : ∀ part ∈ directory.parts, IsComponent part) {t : Text} (ht : t.head? ≠ some separator) :
    rootText (joinText directory.text t) = directory.root := by
  have htext := text_of_isRoot hroot
  cases hjoin : Text.join separator directory.parts with
  | nil =>
      -- a root ends with a separator, so none is put in front of the path
      have hclosed : directory.text.getLast? = some separator := by
        rw [htext, hjoin, List.append_nil]
        rcases hroot with h | h <;> rw [h] <;> rfl
      rw [joinText, if_neg ht, if_pos (by simp [hclosed]), htext, hjoin, List.append_nil]
      exact rootText_root_append hroot ht
  | cons c rest =>
      obtain ⟨b, hb⟩ := exists_joinText ht directory.text
      have hhead := head?_join hparts
      rw [hb, htext, List.append_assoc]
      refine rootText_root_append hroot ?_
      rw [hjoin] at hhead ⊢
      exact hhead

/-- A text that is taken from a directory is normalised as the path that it stands for. -/
theorem normalized_join {directory : Path} (hroot : IsRoot directory.root)
    (hparts : ∀ part ∈ directory.parts, IsComponent part) (t : Text) :
    (directory.join (ofText t)).normalized = ofText (normalizeText (joinText directory.text t)) := by
  have hread {p : Path} (h : IsRoot p.root) (h' : ∀ part ∈ p.parts, IsComponent part) :
      rootText p.text = p.root ∧ steps p.text = p.parts :=
    Path.mk.inj (ofText_text h h')
  rw [normalized]
  congr 1
  by_cases ht : t.head? = some separator
  · have hself : directory.join (ofText t) = ofText t := by
      rw [join, if_pos]
      rcases isRoot_rootText ht with h | h <;> simp [isAbsolute, ofText, h]
    obtain ⟨hroot', hsteps⟩ := hread (p := ofText t) (isRoot_rootText ht) fun _ => of_mem_steps
    rw [hself, joinText_of_absolute ht]
    exact normalizeText_congr hroot' hsteps
  · have hbelow : directory.join (ofText t) = { directory with parts := directory.parts ++ steps t } := by
      rw [join, if_neg (by simp [isAbsolute, ofText, rootText_of_relative ht])]
      rfl
    have hcomponents : ∀ part ∈ directory.parts ++ steps t, IsComponent part :=
      List.forall_mem_append.mpr ⟨hparts, fun _ => of_mem_steps⟩
    obtain ⟨hroot', hsteps⟩ :=
      hread (p := { directory with parts := directory.parts ++ steps t }) hroot hcomponents
    rw [hbelow]
    apply normalizeText_congr
    · rw [hroot', rootText_joinText hroot hparts ht]
    · rw [hsteps, steps_joinText ht, (hread hroot hparts).2]

end CompilationDatabase.Path
