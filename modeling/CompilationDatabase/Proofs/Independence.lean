import CompilationDatabase.Proofs.Contents
import CompilationDatabase.Proofs.Sharing

/-!
# Independence — items of a project do not see each other

If item elements are dropped from a project file, the other elements include the items that they did,
and the macros are those that they were. So it can be said of each group which item any element of it
includes, once and for all: `items_independent` compares the build of a file with the builds of all
files that are left when elements are dropped.

Read by value this is plain. A group of items leaves the scope as it is, and what an element includes
depends on the scope alone (`step_drops`); so do the groups of a document, by induction (`walk_drops`),
and every item is resolved by itself (`build_drops`).
-/

namespace CompilationDatabase

/-- The elements of a group that include items. -/
def Group.itemElements : Group → List ItemElement
  | .items _ _ members => members
  | _ => []

/-- A group from which item elements are dropped. -/
inductive Group.Drops : Group → Group → Prop
  | same {g} : Drops g g
  | items {label condition members rest} : rest.Sublist members →
      Drops (.items label condition members) (.items label condition rest)

namespace ProjectDocument

/-- A document from which item elements are dropped. -/
def Drops (d d' : ProjectDocument) : Prop := List.Forall₂ Group.Drops d d'

/-- The items of a document, if it is known of each group which item an element of it includes. -/
def included (d : ProjectDocument) (made : List (ItemElement → Option ItemValue)) :
    List ItemValue :=
  (List.zipWith (fun make g => g.itemElements.filterMap make) made d).flatten

theorem Drops.refl (d : ProjectDocument) : d.Drops d := by
  induction d with
  | nil => exact .nil
  | cons g gs ih => exact .cons .same ih

/-- What is done to each item may be done to what the elements include. -/
theorem filterMap_included (d : ProjectDocument) (make : List (ItemElement → Option ItemValue))
    (f : ItemValue → Option ItemValue) :
    (d.included make).filterMap f = d.included (make.map fun m e => (m e).bind f) := by
  induction d generalizing make with
  | nil => cases make <;> rfl
  | cons g gs ih =>
      cases make with
      | nil => rfl
      | cons m make =>
          show (g.itemElements.filterMap m ++ included gs make).filterMap f
            = g.itemElements.filterMap _ ++ included gs (make.map _)
          rw [List.filterMap_append, List.filterMap_filterMap, ih]

theorem included_subset {d d' : ProjectDocument} (h : d.Drops d')
    (make : List (ItemElement → Option ItemValue)) : d'.included make ⊆ d.included make := by
  induction h generalizing make with
  | nil => exact List.Subset.refl _
  | @cons g g' gs gs' hg _ ih =>
      cases make with
      | nil => exact List.Subset.refl _
      | cons m make =>
          have hmembers : g'.itemElements.filterMap m ⊆ g.itemElements.filterMap m := by
            cases hg with
            | same => exact List.Subset.refl _
            | items hrest => exact (hrest.filterMap m).subset
          exact List.append_subset.mpr ⟨List.subset_append_of_subset_left _ hmembers,
            List.subset_append_of_subset_right _ (ih make)⟩

end ProjectDocument

namespace Scope

variable {s s' : Scope}

theorem items_eq_ok {members : List ItemElement} (h : ∀ e ∈ members, ∃ i, s.item? e = .ok i) :
    s.items members = .ok (members.filterMap fun e => (s.item? e).toOption.join) := by
  induction members with
  | nil => rfl
  | cons e es ih =>
      obtain ⟨i, hi⟩ := h e List.mem_cons_self
      rw [items, ih fun e' he' => h e' (List.mem_cons_of_mem _ he'), hi, List.filterMap_cons, hi]
      cases i <;> rfl

theorem exists_item_of_items {members : List ItemElement} {made : List ItemValue}
    (h : s.items members = .ok made) : ∀ e ∈ members, ∃ i, s.item? e = .ok i := by
  induction members generalizing made with
  | nil => exact nofun
  | cons e es ih =>
      obtain ⟨i, hi, h⟩ := ok_of_bind h
      obtain ⟨more, hes, -⟩ := ok_of_bind h
      intro e' he'
      rcases List.mem_cons.mp he' with rfl | he'
      · exact ⟨i, hi⟩
      · exact ih hes e' he'

/-- A group of items is read element by element, or passed over, or its condition fails; which of
    these does not depend on its elements. -/
theorem step_items (s : Scope) (label condition : Option Text) :
    (∀ members, s.step (.items label condition members) = (s.items members).map (s, ·)) ∨
    (∀ members, s.step (.items label condition members) = .ok (s, [])) ∨
    ∃ fault, ∀ members, s.step (.items label condition members) = .error fault := by
  cases label with
  | some label => exact Or.inr (Or.inl fun _ => rfl)
  | none =>
      -- the condition is looked at before the elements are
      simp only [step]
      cases s.holds condition with
      | error fault => exact Or.inr (Or.inr ⟨fault, fun _ => rfl⟩)
      | ok active =>
          cases active with
          | true => exact Or.inl fun members => by cases s.items members <;> rfl
          | false => exact Or.inr (Or.inl fun _ => rfl)

/-- A group includes what its elements include in its scope, whichever of them are dropped. -/
theorem step_drops {g : Group} {made : List ItemValue} (h : s.step g = .ok (s', made)) :
    ∃ make : ItemElement → Option ItemValue, ∀ g', g.Drops g' →
      s.step g' = .ok (s', g'.itemElements.filterMap make) := by
  cases g with
  | items label condition members =>
      have hdrops : ∀ g', (Group.items label condition members).Drops g' →
          ∃ rest, g' = .items label condition rest ∧ rest.Sublist members := by
        intro g' hg'
        cases hg' with
        | same => exact ⟨members, rfl, List.Sublist.refl _⟩
        | items hrest => exact ⟨_, rfl, hrest⟩
      rcases s.step_items label condition with hread | hskip | ⟨fault, hfault⟩
      · refine ⟨fun e => (s.item? e).toOption.join, fun g' hg' => ?_⟩
        obtain ⟨rest, rfl, hrest⟩ := hdrops g' hg'
        rw [hread] at h ⊢
        cases hmembers : s.items members with
        | error fault => rw [hmembers] at h; exact nomatch h
        | ok made' =>
            rw [hmembers] at h
            cases h
            have heach := exists_item_of_items hmembers
            rw [items_eq_ok fun e he => heach e (hrest.subset he)]
            rfl
      · refine ⟨fun _ => none, fun g' hg' => ?_⟩
        obtain ⟨rest, rfl, -⟩ := hdrops g' hg'
        rw [hskip] at h ⊢
        cases h
        rw [List.filterMap_none]
      · rw [hfault] at h
        exact nomatch h
  -- no element of the other groups includes an item, so none can be dropped from them
  | definitions condition members =>
      refine ⟨fun _ => none, fun g' hg' => ?_⟩
      cases hg'
      obtain ⟨s₁, -, hmade⟩ := ok_of_bind h
      cases hmade
      exact h
  | properties condition members =>
      refine ⟨fun _ => none, fun g' hg' => ?_⟩
      cases hg'
      obtain ⟨s₁, -, hmade⟩ := ok_of_bind h
      cases hmade
      exact h

/-- A document includes what its elements include, whichever of them are dropped. -/
theorem walk_drops {d : ProjectDocument} {made : List ItemValue} (h : s.walk d = .ok (s', made)) :
    ∃ make : List (ItemElement → Option ItemValue), make.length = d.length ∧
      ∀ d', d.Drops d' → s.walk d' = .ok (s', d'.included make) := by
  induction d generalizing s made with
  | nil =>
      cases h
      refine ⟨[], rfl, fun d' hd' => ?_⟩
      cases hd'
      rfl
  | cons g gs ih =>
      obtain ⟨⟨s₁, first⟩, hstep, h⟩ := ok_of_bind h
      obtain ⟨⟨s₂, more⟩, hwalk, h⟩ := ok_of_bind h
      cases h
      -- the scope after the group is the same, so the others are read in the scope that they were
      obtain ⟨make, hmake⟩ := step_drops hstep
      obtain ⟨makes, hlength, hmakes⟩ := ih hwalk
      refine ⟨make :: makes, congrArg Nat.succ hlength, fun d' hd' => ?_⟩
      cases hd' with
      | cons hg hgs =>
          rw [walk, hmake _ hg]
          show (do let v ← s₁.walk _; return (v.1, _ ++ v.2)) = _
          rw [hmakes _ hgs]
          rfl

/-- A project includes what its elements include, whichever of them are dropped. -/
theorem build_drops {times : FileTimes (Except Fault)} {d : ProjectDocument} {v : ProjectValue}
    (h : s.build times d = .ok v) :
    ∃ make : List (ItemElement → Option ItemValue), make.length = d.length ∧
      ∀ d', d.Drops d' → s.build times d' = .ok { v with items := d'.included make } := by
  obtain ⟨⟨s', made⟩, hwalk, h⟩ := ok_of_bind h
  obtain ⟨resolved, hresolve, h⟩ := ok_of_bind h
  cases h
  obtain ⟨make, hlength, hmake⟩ := walk_drops hwalk
  obtain ⟨-, hmade⟩ := Prod.mk.inj (Except.ok.inj (hwalk.symm.trans (hmake d (.refl d))))
  have heach := (mapM_eq_ok_iff.mp hresolve).1
  refine ⟨make.map fun m e => (m e).bind fun i => (s'.resolve times i).toOption, ?_, ?_⟩
  · rw [List.length_map, hlength]
  · intro d' hd'
    have hleft : ∀ i ∈ d'.included make, ∃ j, s'.resolve times i = .ok j := fun i hi =>
      heach i (hmade ▸ ProjectDocument.included_subset hd' make hi)
    have hresolve' := mapM_eq_ok_iff.mpr ⟨hleft, rfl⟩
    rw [build, hmake d' hd', ← ProjectDocument.filterMap_included]
    show (do let items ← (d'.included make).mapM (s'.resolve times); return s'.project items) = _
    rw [hresolve']
    rfl

end Scope

namespace Builder

variable {m : Matching} {files : FileTree} {path : Path} {macros : NameTable m}
  {document : ProjectDocument}

/-- **Items are independent of each other.** If a project file can be built, it can be said of each of
    its groups which item an element of it includes, so that the items of the project are what its
    elements include, and whatever item elements are dropped from the file, it can be built, the
    macros are the same in the same order, and the items are what the elements that are left
    include. -/
theorem items_independent {p : Project} {b : Builder}
    (hdoc : files.Holds (files.absolute path) document)
    (h : (build files).run (start files path macros) = .ok p b) :
    ∃ make : List (ItemElement → Option ItemValue), make.length = document.length ∧
      p.value.items = document.included make ∧
      ∀ files' document', files.Alike files' → document.Drops document' →
        files'.Holds (files'.absolute path) document' →
        ∃ p' b', (build files').run (start files' path macros) = .ok p' b' ∧
          p'.name = p.name ∧ p'.path = p.path ∧ p'.macros = p.macros ∧
          p'.value.items = document'.included make := by
  obtain ⟨make, hlength, hmake⟩ := Scope.build_drops (value_of_build hdoc h)
  have hall := Except.ok.inj ((value_of_build hdoc h).symm.trans (hmake document (.refl document)))
  refine ⟨make, hlength, congrArg ProjectValue.items hall, ?_⟩
  intro files' document' halike hdrops hdoc'
  have hleft := hmake document' hdrops
  rw [← halike.times, ← halike.absolute_eq] at hleft
  obtain ⟨p', b', hrun, hvalue⟩ := exists_build hdoc' hleft
  refine ⟨p', b', hrun, ?_, ?_, ?_, ?_⟩
  · exact congrArg ProjectValue.name hvalue
  · exact congrArg ProjectValue.path hvalue
  · exact congrArg ProjectValue.macros hvalue
  · exact congrArg ProjectValue.items hvalue

/-- A project with two items. -/
def twoItems : FileTree :=
  .ofFiles [("p", "<P><ItemGroup><C Include='a'><D>x</D></C><C Include='b'/></ItemGroup></P>")]

/-- The same project without its first item. -/
def oneItem : FileTree := .ofFiles [("p", "<P><ItemGroup><C Include='b'/></ItemGroup></P>")]

/-- The second item is the same without the first one. -/
theorem items_independent_twoItems :
    let first : ItemElement := ⟨['C'], ['a'], none, [⟨['D'], none, ['x']⟩]⟩
    let second : ItemElement := ⟨['C'], ['b'], none, []⟩
    let p : Path := ⟨['/'], [['p']]⟩
    let macros : NameTable .ignoringCase := .empty
    ∃ both b only b' make, (build twoItems).run (start twoItems p macros) = .ok both b ∧
      (build oneItem).run (start oneItem p macros) = .ok only b' ∧ only.macros = both.macros ∧
      both.value.items = ProjectDocument.included [.items none none [first, second]] make ∧
      only.value.items = ProjectDocument.included [.items none none [second]] make := by
  intro first second p macros
  have hdoc : twoItems.Holds (twoItems.absolute p) [.items none none [first, second]] :=
    FileTree.holds_of_load (by decide +kernel)
  have hdoc' : oneItem.Holds (oneItem.absolute p) [.items none none [second]] :=
    FileTree.holds_of_load (by decide +kernel)
  have hdrops : ProjectDocument.Drops [.items none none [first, second]]
      [.items none none [second]] :=
    .cons (.items (List.sublist_cons_self _ _)) .nil
  obtain ⟨both, b, hbuild, -⟩ : ∃ both b,
      (build twoItems).run (start twoItems p macros) = .ok both b ∧ both.value.items.length = 2 :=
    exists_build_of_map hdoc (f := (·.items.length)) (by decide +kernel)
  obtain ⟨make, -, hitems, hrest⟩ := items_independent hdoc hbuild
  obtain ⟨only, b', hbuild', -, -, hmacros, hitems'⟩ :=
    hrest oneItem _ (FileTree.alike_ofFiles rfl) hdrops hdoc'
  exact ⟨both, b, only, b', make, hbuild, hbuild', hmacros, hitems, hitems'⟩

end Builder

end CompilationDatabase
