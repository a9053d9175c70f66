import CompilationDatabase.Proofs.Contents
import CompilationDatabase.Proofs.Sharing

/-!
# Order of groups — which neighbours may change places

Values are expanded when the walk is over, and before that macros are looked at by conditions alone. So
a group of items or of definitions without any condition may change places with a group of properties
next to it: `outcome_exchange`.

`step_deferred` says what such a group does: it never fails, and what it makes of the definitions and
which items it includes does not depend on the macros. `step_properties` says the converse of a group
of properties, which may fail: it depends on the macros, and only they change.
-/

namespace CompilationDatabase

/-- No element has a condition. -/
def PropertyElement.Unconditional (elements : List PropertyElement) : Prop :=
  ∀ e ∈ elements, e.condition = none

/-- A group of items or of definitions in which there is no condition. -/
def Group.Deferred : Group → Prop
  | .items _ condition members => condition = none ∧
      ∀ e ∈ members, e.condition = none ∧ PropertyElement.Unconditional e.properties
  | .definitions condition members => condition = none ∧
      ∀ e ∈ members, e.condition = none ∧ PropertyElement.Unconditional e.properties
  | .properties .. => False

namespace Scope

theorem holds_none (s : Scope) : s.holds none = .ok true := rfl

/-- Elements without conditions set the same properties in all scopes. -/
theorem exists_collect {elements : List PropertyElement}
    (h : PropertyElement.Unconditional elements) :
    ∃ table, ∀ s : Scope, s.collect elements = .ok table := by
  suffices ∀ t : NameTable .ignoringCase, ∃ table, ∀ s : Scope,
      elements.foldlM (fun table e => do
        if ← s.holds e.condition then return table.insert e.name e.value
        else return table) t = .ok table from this .empty
  induction elements with
  | nil => exact fun t => ⟨t, fun _ => rfl⟩
  | cons e es ih =>
      intro t
      obtain ⟨he, hes⟩ := List.forall_mem_cons.mp h
      obtain ⟨table, htable⟩ := ih hes (t.insert e.name e.value)
      refine ⟨table, fun s => ?_⟩
      rw [List.foldlM_cons, he]
      exact htable s

theorem exists_items {members : List ItemElement} (definitions : Text → Option PropertyTable)
    (h : ∀ e ∈ members, e.condition = none ∧ PropertyElement.Unconditional e.properties) :
    ∃ made, ∀ path macros, (Scope.mk path macros definitions).items members = .ok made := by
  induction members with
  | nil => exact ⟨[], fun _ _ => rfl⟩
  | cons e es ih =>
      obtain ⟨⟨he, hproperties⟩, hes⟩ := List.forall_mem_cons.mp h
      obtain ⟨made, hmade⟩ := ih hes
      obtain ⟨table, htable⟩ := exists_collect hproperties
      let item := (ItemValue.create e.type e.identity
        (definitions (Builder.definedType e.type))).extend table.entries
      refine ⟨item :: made, fun path macros => ?_⟩
      have hitem : (Scope.mk path macros definitions).item? e = .ok (some item) := by
        rw [item?, he, holds_none, htable]
        rfl
      rw [items, hitem, hmade]
      rfl

theorem exists_definitions {members : List DefinitionElement}
    (h : ∀ e ∈ members, e.condition = none ∧ PropertyElement.Unconditional e.properties)
    (definitions : Text → Option PropertyTable) :
    ∃ definitions', ∀ path macros, members.foldlM define (Scope.mk path macros definitions)
      = .ok ⟨path, macros, definitions'⟩ := by
  induction members generalizing definitions with
  | nil => exact ⟨definitions, fun _ _ => rfl⟩
  | cons e es ih =>
      obtain ⟨⟨he, hproperties⟩, hes⟩ := List.forall_mem_cons.mp h
      obtain ⟨table, htable⟩ := exists_collect hproperties
      obtain ⟨definitions', hrest⟩ := ih hes fun type =>
        if type = e.type then some ⟨.ignoringCase, table⟩ else definitions type
      refine ⟨definitions', fun path macros => ?_⟩
      rw [List.foldlM_cons, define, he, holds_none, htable]
      exact hrest path macros

/-- What a group without conditions does is the same whatever the macros are. -/
theorem step_deferred {g : Group} (hg : g.Deferred) (definitions : Text → Option PropertyTable) :
    ∃ definitions' made, ∀ path macros,
      (Scope.mk path macros definitions).step g = .ok (⟨path, macros, definitions'⟩, made) := by
  cases g with
  | items label condition members =>
      obtain ⟨rfl, hmembers⟩ := hg
      cases label with
      | some label => exact ⟨definitions, [], fun _ _ => rfl⟩
      | none =>
          obtain ⟨made, hmade⟩ := exists_items definitions hmembers
          refine ⟨definitions, made, fun path macros => ?_⟩
          rw [step, holds_none, hmade]
          rfl
  | definitions condition members =>
      obtain ⟨rfl, hmembers⟩ := hg
      obtain ⟨definitions', hdefinitions⟩ := exists_definitions hmembers definitions
      refine ⟨definitions', [], fun path macros => ?_⟩
      rw [step, change, holds_none, hdefinitions]
      rfl
  | properties condition members => exact hg.elim

/-! ## Groups of properties -/

theorem exists_assigned (path : Path) (macros : NameTable .ignoringCase)
    (members : List PropertyElement) :
    ∃ r : Except Fault (NameTable .ignoringCase), ∀ definitions,
      members.foldlM assign (Scope.mk path macros definitions)
        = r.map fun macros' => ⟨path, macros', definitions⟩ := by
  induction members generalizing macros with
  | nil => exact ⟨.ok macros, fun _ => rfl⟩
  | cons e es ih =>
      -- conditions are looked at in the macros alone
      have hholds : ∀ definitions, (Scope.mk path macros definitions).holds e.condition
          = (Scope.mk path macros fun _ => none).holds e.condition := fun _ => rfl
      cases hactive : (Scope.mk path macros fun _ => none).holds e.condition with
      | error fault =>
          refine ⟨.error fault, fun definitions => ?_⟩
          rw [List.foldlM_cons, assign, hholds, hactive]
          rfl
      | ok active =>
          obtain ⟨r, hr⟩ := ih (if active then macros.insert e.name e.value else macros)
          refine ⟨r, fun definitions => ?_⟩
          rw [List.foldlM_cons, assign, hholds, hactive, ← hr]
          cases active <;> rfl

/-- A group of properties changes the macros, in a way that does not depend on the definitions. -/
theorem step_properties (path : Path) (macros : NameTable .ignoringCase)
    (condition : Option Text) (members : List PropertyElement) :
    ∃ r : Except Fault (NameTable .ignoringCase), ∀ definitions,
      (Scope.mk path macros definitions).step (.properties condition members)
        = r.map fun macros' => (⟨path, macros', definitions⟩, []) := by
  have hholds : ∀ definitions, (Scope.mk path macros definitions).holds condition
      = (Scope.mk path macros fun _ => none).holds condition := fun _ => rfl
  cases hactive : (Scope.mk path macros fun _ => none).holds condition with
  | error fault =>
      refine ⟨.error fault, fun definitions => ?_⟩
      rw [step, change, hholds, hactive]
      rfl
  | ok active =>
      cases active with
      | false =>
          refine ⟨.ok macros, fun definitions => ?_⟩
          rw [step, change, hholds, hactive]
          rfl
      | true =>
          obtain ⟨r, hr⟩ := exists_assigned path macros members
          refine ⟨r, fun definitions => ?_⟩
          rw [step, change, hholds, hactive]
          show (do let s ← members.foldlM assign _; return (s, [])) = _
          rw [hr]
          cases r <;> rfl

/-! ## Neighbours -/

/-- A group without conditions and a group of properties next to it may change places. -/
theorem walk_exchange (s : Scope) {g : Group} (hg : g.Deferred) (condition : Option Text)
    (members : List PropertyElement) :
    s.walk [g, .properties condition members] = s.walk [.properties condition members, g] := by
  obtain ⟨path, macros, definitions⟩ := s
  obtain ⟨definitions', made, hdeferred⟩ := step_deferred hg definitions
  obtain ⟨r, hproperties⟩ := step_properties path macros condition members
  rw [walk, walk, hdeferred, hproperties]
  cases r with
  -- if a condition fails, it fails after the other group as well
  | error fault =>
      show (do let v ← Scope.walk ⟨path, macros, definitions'⟩ [.properties condition members]
               return (v.1, made ++ v.2)) = .error fault
      rw [walk, hproperties]
      rfl
  | ok macros' =>
      show (do let v ← Scope.walk ⟨path, macros, definitions'⟩ [.properties condition members]
               return (v.1, made ++ v.2))
        = do let v ← Scope.walk ⟨path, macros', definitions⟩ [g]
             return (v.1, [] ++ v.2)
      rw [walk, hproperties, walk, hdeferred]
      exact congrArg Except.ok (Prod.ext rfl (List.nil_append (made ++ [])).symm)

/-- It does not matter where in a document the two groups stand. -/
theorem build_exchange (s : Scope) (times : FileTimes (Except Fault)) {g : Group} (hg : g.Deferred)
    (condition : Option Text) (members : List PropertyElement) (before after : ProjectDocument) :
    s.build times (before ++ g :: .properties condition members :: after)
      = s.build times (before ++ .properties condition members :: g :: after) := by
  have hwalk : s.walk (before ++ g :: .properties condition members :: after)
      = s.walk (before ++ .properties condition members :: g :: after) := by
    show s.walk (before ++ ([g, .properties condition members] ++ after))
      = s.walk (before ++ ([.properties condition members, g] ++ after))
    simp only [walk_append, walk_exchange _ hg]
  rw [build, build, hwalk]

end Scope

namespace Builder

variable {m : Matching} {files files' : FileTree} {path : Path} {macros : NameTable m}

/-- **Groups without conditions commute with their neighbours.** If a group of items or of definitions
    in which there is no condition stands before a group of properties in one version of a project
    file, and after it in the other, both versions have the same outcome: the same fault, or projects
    with the same macros and the same items. -/
theorem outcome_exchange {g : Group} (hg : g.Deferred) {condition : Option Text}
    {members : List PropertyElement} {before after : ProjectDocument} (halike : files.Alike files')
    (hdoc : files.Holds (files.absolute path)
      (before ++ g :: .properties condition members :: after))
    (hdoc' : files'.Holds (files'.absolute path)
      (before ++ .properties condition members :: g :: after)) :
    outcome ((build files).run (start files path macros))
      = outcome ((build files').run (start files' path macros)) := by
  rw [outcome_build hdoc, outcome_build hdoc', halike.times, halike.absolute_eq]
  exact Scope.build_exchange _ _ hg condition members before after

/-- An item stands before the macro in its identity. -/
def itemFirst : FileTree := .ofFiles [("p",
  "<P><ItemGroup><C Include='$(M)'/></ItemGroup><PropertyGroup><M>x</M></PropertyGroup></P>")]

/-- The same item stands after the macro. -/
def macroFirst : FileTree := .ofFiles [("p",
  "<P><PropertyGroup><M>x</M></PropertyGroup><ItemGroup><C Include='$(M)'/></ItemGroup></P>")]

/-- The item takes the value of the macro in both places. -/
theorem outcome_exchange_macro :
    let p : Path := ⟨['/'], [['p']]⟩
    let macros : NameTable .ignoringCase := .empty
    outcome ((build itemFirst).run (start itemFirst p macros))
      = outcome ((build macroFirst).run (start macroFirst p macros)) := by
  intro p macros
  let item : ItemElement := ⟨['C'], "$(M)".toList, none, []⟩
  have hg : (Group.items none none [item]).Deferred := by
    refine ⟨rfl, fun e he => ?_⟩
    obtain rfl := List.mem_singleton.mp he
    exact ⟨rfl, nofun⟩
  have hdoc : itemFirst.Holds (itemFirst.absolute p)
      ([] ++ .items none none [item] :: .properties none [⟨['M'], none, ['x']⟩] :: []) :=
    FileTree.holds_of_load (by decide +kernel)
  have hdoc' : macroFirst.Holds (macroFirst.absolute p)
      ([] ++ .properties none [⟨['M'], none, ['x']⟩] :: .items none none [item] :: []) :=
    FileTree.holds_of_load (by decide +kernel)
  exact outcome_exchange hg (FileTree.alike_ofFiles rfl) hdoc hdoc'

end Builder

end CompilationDatabase
