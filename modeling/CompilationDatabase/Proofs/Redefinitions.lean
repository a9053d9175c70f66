import CompilationDatabase.Proofs.Contents
import CompilationDatabase.Proofs.Sharing

/-!
# Redefinitions — definitions that are replaced before they are used

A definition takes the place of an earlier one for its type, it is not merged with it. So if no item in
between starts from it, the earlier one may as well be left out, whatever it sets and wherever it
stands: `definitions_replace`.

Without the earlier definition the walk goes through scopes that are the same but for that type
(`Scope.AgreeBut`). All groups keep this, as long as they include no item that starts from the type,
and the later definition makes the scopes equal (`AgreeBut.define_same`).
-/

namespace CompilationDatabase

/-! ## Definitions in a document -/

/-- A document with one definition singled out: the group that it stands in, and what is before and
    after it in the group and in the document. -/
structure PlacedDefinition where
  before : ProjectDocument
  /-- The condition of the group. -/
  condition : Option Text
  first : List DefinitionElement
  element : DefinitionElement
  last : List DefinitionElement
  after : ProjectDocument

namespace PlacedDefinition

/-- The document as it is. -/
def document (d : PlacedDefinition) : ProjectDocument :=
  d.before ++ .definitions d.condition (d.first ++ d.element :: d.last) :: d.after

/-- The document without the definition. -/
def erased (d : PlacedDefinition) : ProjectDocument :=
  d.before ++ .definitions d.condition (d.first ++ d.last) :: d.after

/-- A definition stands in an earlier group than another one, or before it in the same group. -/
def Precedes (d d' : PlacedDefinition) : Prop :=
  d.before.length < d'.before.length ∨
    d.before.length = d'.before.length ∧ d.first.length < d'.first.length

/-- In the scope at its group a definition is in effect: its condition and that of the group hold. -/
def InEffect (d : PlacedDefinition) (s : Scope) : Prop :=
  s.holds d.condition = .ok true ∧ s.holds d.element.condition = .ok true

/-- In the walk through a document a definition is replaced before it is used: a later one for the same
    type is in effect at its place, and no item that is included between the two starts from the
    type. The earlier one need not be in effect. -/
structure ReplacedBy (old new : PlacedDefinition) (start : Scope) : Prop where
  document : new.document = old.document
  precedes : old.Precedes new
  type     : new.element.type = old.element.type
  unused   : ∃ s made s' between, start.walk old.before = .ok (s, made) ∧
    start.walk new.before = .ok (s', made ++ between) ∧ new.InEffect s' ∧
    ∀ i ∈ between, Builder.definedType i.type ≠ old.element.type

end PlacedDefinition

/-- Of two places in a list the first one is in front of what is before the second one. -/
theorem exists_between {α : Type} {before before' after after' : List α} {a a' : α}
    (h : before ++ a :: after = before' ++ a' :: after') (hlength : before.length < before'.length) :
    ∃ between, before' = before ++ a :: between ∧ after = between ++ a' :: after' := by
  rcases List.append_eq_append_iff.mp h with ⟨rest, rfl, hrest⟩ | ⟨rest, rfl, -⟩
  · cases rest with
    | nil => simp at hlength
    | cons b between =>
        obtain ⟨rfl, rfl⟩ := List.cons.inj hrest
        exact ⟨between, rfl, rfl⟩
  · rw [List.length_append] at hlength
    omega

namespace Scope

/-! ## Scopes that agree but for one type -/

/-- The same is in effect in two scopes, except for the defaults for one type. -/
structure AgreeBut (type : Text) (s s' : Scope) : Prop where
  path        : s'.path = s.path
  macros      : s'.macros = s.macros
  definitions : ∀ other, other ≠ type → s'.definitions other = s.definitions other

variable {s s' t : Scope} {type : Text}

namespace AgreeBut

theorem symm (h : s.AgreeBut type s') : s'.AgreeBut type s where
  path := h.path.symm
  macros := h.macros.symm
  definitions other hother := (h.definitions other hother).symm

theorem holds_eq (h : s.AgreeBut type s') (condition : Option Text) :
    s'.holds condition = s.holds condition := by
  rw [holds, holds, location, location, h.macros, h.path]

theorem collect_eq (h : s.AgreeBut type s') (elements : List PropertyElement) :
    s'.collect elements = s.collect elements := by
  simp only [collect, h.holds_eq]

end AgreeBut

theorem define_eq_ok {e : DefinitionElement} (hactive : s.holds e.condition = .ok true) :
    s.define e = .ok t ↔ ∃ properties, s.collect e.properties = .ok properties ∧
      { s with definitions := fun type =>
          if type = e.type then some ⟨.ignoringCase, properties⟩ else s.definitions type } = t := by
  simp [define, hactive, pure, Except.pure]

theorem define_of_not_holds {e : DefinitionElement} (hactive : s.holds e.condition = .ok false) :
    s.define e = .ok s := by
  rw [define, hactive]
  rfl

/-- A definition changes the defaults for its type at most. -/
theorem agreeBut_define {e : DefinitionElement} (h : s.define e = .ok t) : s.AgreeBut e.type t := by
  obtain ⟨active, hactive, -⟩ := ok_of_bind h
  cases active with
  | false =>
      obtain rfl := Except.ok.inj ((define_of_not_holds hactive).symm.trans h)
      exact ⟨rfl, rfl, fun _ _ => rfl⟩
  | true =>
      obtain ⟨properties, -, rfl⟩ := (define_eq_ok hactive).mp h
      exact ⟨rfl, rfl, fun _ hother => if_neg hother⟩

/-- Conditions do not depend on definitions. -/
theorem holds_of_foldlM_define {members : List DefinitionElement}
    (h : members.foldlM define s = .ok t) (condition : Option Text) :
    t.holds condition = s.holds condition := by
  induction members generalizing s with
  | nil => cases h; rfl
  | cons e members ih =>
      rw [List.foldlM_cons] at h
      obtain ⟨s₁, hdefine, hrest⟩ := ok_of_bind h
      rw [ih hrest, (agreeBut_define hdefine).holds_eq]

namespace AgreeBut

/-- After a definition that is in effect, nothing is left of what was defined for its type. -/
theorem define_same {e : DefinitionElement} (h : s.AgreeBut e.type s')
    (hactive : s.holds e.condition = .ok true) (hdefine : s.define e = .ok t) :
    s'.define e = .ok t := by
  obtain ⟨properties, hcollect, rfl⟩ := (define_eq_ok hactive).mp hdefine
  refine (define_eq_ok ((h.holds_eq _).trans hactive)).mpr ⟨properties, ?_, ?_⟩
  · rw [h.collect_eq, hcollect]
  · rw [Scope.mk.injEq]
    refine ⟨h.path, h.macros, funext fun other => ?_⟩
    by_cases hother : other = e.type
    · rw [if_pos hother, if_pos hother]
    · rw [if_neg hother, if_neg hother, h.definitions other hother]

/-! ### Groups -/

theorem define {e : DefinitionElement} (h : s.AgreeBut type s') (hdefine : s.define e = .ok t) :
    ∃ t', s'.define e = .ok t' ∧ t.AgreeBut type t' := by
  obtain ⟨active, hactive, -⟩ := ok_of_bind hdefine
  cases active with
  | false =>
      obtain rfl := Except.ok.inj ((define_of_not_holds hactive).symm.trans hdefine)
      exact ⟨s', define_of_not_holds ((h.holds_eq _).trans hactive), h⟩
  | true =>
      obtain ⟨properties, hcollect, rfl⟩ := (define_eq_ok hactive).mp hdefine
      refine ⟨_, (define_eq_ok ((h.holds_eq _).trans hactive)).mpr
        ⟨properties, (h.collect_eq _).trans hcollect, rfl⟩, h.path, h.macros, ?_⟩
      intro other hother
      simp only [h.definitions other hother]

theorem assign {e : PropertyElement} (h : s.AgreeBut type s') (hassign : s.assign e = .ok t) :
    ∃ t', s'.assign e = .ok t' ∧ t.AgreeBut type t' := by
  obtain ⟨active, hactive, hassign⟩ := ok_of_bind hassign
  rw [Scope.assign, h.holds_eq, hactive]
  cases active <;> cases hassign
  · exact ⟨s', rfl, h⟩
  · exact ⟨_, rfl, h.path, congrArg (·.insert e.name e.value) h.macros, h.definitions⟩

section Members

variable {α : Type} {f : Scope → α → Except Fault Scope}
  (hf : ∀ {s s' t : Scope} {a : α}, s.AgreeBut type s' → f s a = .ok t →
    ∃ t', f s' a = .ok t' ∧ t.AgreeBut type t')

include hf

theorem foldlM {members : List α} (h : s.AgreeBut type s') (hfold : members.foldlM f s = .ok t) :
    ∃ t', members.foldlM f s' = .ok t' ∧ t.AgreeBut type t' := by
  induction members generalizing s s' with
  | nil => cases hfold; exact ⟨s', rfl, h⟩
  | cons a members ih =>
      rw [List.foldlM_cons] at hfold
      obtain ⟨s₁, hfirst, hrest⟩ := ok_of_bind hfold
      obtain ⟨s₁', hfirst', h₁⟩ := hf h hfirst
      rw [List.foldlM_cons, hfirst']
      exact ih h₁ hrest

theorem change {condition : Option Text} {members : List α} (h : s.AgreeBut type s')
    (hchange : s.change condition f members = .ok t) :
    ∃ t', s'.change condition f members = .ok t' ∧ t.AgreeBut type t' := by
  obtain ⟨active, hactive, hchange⟩ := ok_of_bind hchange
  rw [Scope.change, h.holds_eq, hactive]
  cases active with
  | false => cases hchange; exact ⟨s', rfl, h⟩
  | true => exact h.foldlM (f := f) hf hchange

end Members

/-- An item that does not start from the type is the same in both scopes. -/
theorem item?_eq {e : ItemElement} {made : Option ItemValue} (h : s.AgreeBut type s')
    (hitem : s.item? e = .ok made) (hmade : ∀ i ∈ made, Builder.definedType i.type ≠ type) :
    s'.item? e = .ok made := by
  obtain ⟨active, hactive, hrest⟩ := ok_of_bind hitem
  cases active with
  | false =>
      rw [item?, h.holds_eq, hactive]
      exact hrest
  | true =>
      obtain ⟨overrides, hcollect, rfl⟩ := (item?_eq_ok hactive).mp hitem
      have hother : Builder.definedType e.type ≠ type := by
        have htype := hmade _ rfl
        rwa [ItemValue.type_extend] at htype
      refine (item?_eq_ok ((h.holds_eq _).trans hactive)).mpr
        ⟨overrides, (h.collect_eq _).trans hcollect, ?_⟩
      rw [h.definitions _ hother]

theorem items_eq {members : List ItemElement} {made : List ItemValue} (h : s.AgreeBut type s')
    (hitems : s.items members = .ok made)
    (hmade : ∀ i ∈ made, Builder.definedType i.type ≠ type) : s'.items members = .ok made := by
  induction members generalizing made with
  | nil => exact hitems
  | cons e members ih =>
      obtain ⟨item, hitem, hitems⟩ := ok_of_bind hitems
      obtain ⟨more, hmore, hitems⟩ := ok_of_bind hitems
      obtain rfl := Except.ok.inj hitems
      obtain ⟨hmade, hothers⟩ := List.forall_mem_append.mp hmade
      have hitem' : s'.item? e = .ok item := h.item?_eq hitem fun i hi => hmade i (by simpa using hi)
      rw [items, hitem', ih hmore hothers]
      rfl

/-- A group that includes no item of the type goes the same way in both scopes. -/
theorem step {g : Group} {made : List ItemValue} (h : s.AgreeBut type s')
    (hstep : s.step g = .ok (t, made)) (hmade : ∀ i ∈ made, Builder.definedType i.type ≠ type) :
    ∃ t', s'.step g = .ok (t', made) ∧ t.AgreeBut type t' := by
  cases g with
  | items label condition members =>
      cases label with
      | some label => cases hstep; exact ⟨s', rfl, h⟩
      | none =>
          obtain ⟨active, hactive, hrest⟩ := ok_of_bind hstep
          cases active with
          | false =>
              cases hrest
              rw [Scope.step, h.holds_eq, hactive]
              exact ⟨s', rfl, h⟩
          | true =>
              obtain ⟨hitems, rfl⟩ := (step_items_eq_ok hactive).mp hstep
              have hactive' := (h.holds_eq condition).trans hactive
              exact ⟨s', (step_items_eq_ok hactive').mpr ⟨h.items_eq hitems hmade, rfl⟩, h⟩
  | definitions condition members =>
      obtain ⟨hchange, rfl⟩ := step_definitions_eq_ok.mp hstep
      obtain ⟨t', hchange', ht⟩ := h.change (f := Scope.define) define hchange
      exact ⟨t', step_definitions_eq_ok.mpr ⟨hchange', rfl⟩, ht⟩
  | properties condition members =>
      obtain ⟨t₁, hchange, hstep⟩ := ok_of_bind hstep
      cases hstep
      obtain ⟨t', hchange', ht⟩ := h.change (f := Scope.assign) assign hchange
      rw [Scope.step, hchange']
      exact ⟨t', rfl, ht⟩

theorem walk {document : ProjectDocument} {made : List ItemValue} (h : s.AgreeBut type s')
    (hwalk : s.walk document = .ok (t, made))
    (hmade : ∀ i ∈ made, Builder.definedType i.type ≠ type) :
    ∃ t', s'.walk document = .ok (t', made) ∧ t.AgreeBut type t' := by
  induction document generalizing s s' made with
  | nil => cases hwalk; exact ⟨s', rfl, h⟩
  | cons g document ih =>
      obtain ⟨⟨s₁, first⟩, hstep, hwalk⟩ := ok_of_bind hwalk
      obtain ⟨⟨s₂, more⟩, hrest, hwalk⟩ := ok_of_bind hwalk
      cases hwalk
      obtain ⟨hfirst, hmore⟩ := List.forall_mem_append.mp hmade
      obtain ⟨s₁', hstep', h₁⟩ := h.step hstep hfirst
      obtain ⟨t', hrest', ht⟩ := ih h₁ hrest hmore
      refine ⟨t', ?_, ht⟩
      rw [Scope.walk, hstep']
      show (s₁'.walk document >>= _) = _
      rw [hrest']
      rfl

end AgreeBut

/-! ## One definition less -/

/-- Without one of them, definitions leave a scope that agrees but for its type. -/
theorem foldlM_define_erased {first last : List DefinitionElement} {e : DefinitionElement}
    (h : (first ++ e :: last).foldlM define s = .ok t) :
    ∃ t', (first ++ last).foldlM define s = .ok t' ∧ t.AgreeBut e.type t' := by
  rw [List.foldlM_append] at h
  obtain ⟨s₁, hfirst, h⟩ := ok_of_bind h
  rw [List.foldlM_cons] at h
  obtain ⟨s₂, hdefine, hlast⟩ := ok_of_bind h
  rw [List.foldlM_append, hfirst]
  exact (agreeBut_define hdefine).symm.foldlM (f := define) AgreeBut.define hlast

/-- Definitions that start with one in effect make scopes equal that agree but for its type. -/
theorem AgreeBut.foldlM_define_cons {last : List DefinitionElement} {e : DefinitionElement}
    (h : s.AgreeBut e.type s') (hactive : s.holds e.condition = .ok true)
    (hfold : (e :: last).foldlM Scope.define s = .ok t) :
    (e :: last).foldlM Scope.define s' = .ok t := by
  rw [List.foldlM_cons] at hfold
  obtain ⟨s₁, hdefine, hlast⟩ := ok_of_bind hfold
  rw [List.foldlM_cons, h.define_same hactive hdefine]
  exact hlast

/-- The same with other definitions before that one. -/
theorem AgreeBut.foldlM_define_append {first last : List DefinitionElement} {e : DefinitionElement}
    (h : s.AgreeBut e.type s') (hactive : s.holds e.condition = .ok true)
    (hfold : (first ++ e :: last).foldlM Scope.define s = .ok t) :
    (first ++ e :: last).foldlM Scope.define s' = .ok t := by
  rw [List.foldlM_append] at hfold
  obtain ⟨s₁, hfirst, hlast⟩ := ok_of_bind hfold
  obtain ⟨s₁', hfirst', h₁⟩ := h.foldlM (f := Scope.define) AgreeBut.define hfirst
  have hactive₁ : s₁.holds e.condition = .ok true :=
    (holds_of_foldlM_define hfirst _).trans hactive
  rw [List.foldlM_append, hfirst']
  exact h₁.foldlM_define_cons hactive₁ hlast

variable {condition : Option Text} {made : List ItemValue}

theorem step_erased {first last : List DefinitionElement} {e : DefinitionElement}
    (h : s.step (.definitions condition (first ++ e :: last)) = .ok (t, made)) :
    ∃ t', s.step (.definitions condition (first ++ last)) = .ok (t', made) ∧
      t.AgreeBut e.type t' := by
  obtain ⟨hchange, rfl⟩ := step_definitions_eq_ok.mp h
  obtain ⟨active, hactive, hrest⟩ := ok_of_bind hchange
  suffices ∃ t', s.change condition define (first ++ last) = .ok t' ∧ t.AgreeBut e.type t' by
    obtain ⟨t', hchange', ht⟩ := this
    exact ⟨t', step_definitions_eq_ok.mpr ⟨hchange', rfl⟩, ht⟩
  rw [change, hactive]
  cases active with
  | false => cases hrest; exact ⟨s, rfl, rfl, rfl, fun _ _ => rfl⟩
  | true => exact foldlM_define_erased hrest

/-- In the same group, the later definition replaces the earlier one. -/
theorem step_erased_eq {first between last : List DefinitionElement} {e e' : DefinitionElement}
    (htype : e'.type = e.type) (hgroup : s.holds condition = .ok true)
    (hactive : s.holds e'.condition = .ok true)
    (h : s.step (.definitions condition (first ++ e :: (between ++ e' :: last))) = .ok (t, made)) :
    s.step (.definitions condition (first ++ (between ++ e' :: last))) = .ok (t, made) := by
  rw [step_definitions_eq_ok, change_eq_foldlM hgroup] at h ⊢
  refine ⟨?_, h.2⟩
  have hfold := h.1
  rw [← List.cons_append, ← List.append_assoc, List.foldlM_append] at hfold
  obtain ⟨s₁, hbefore, hlast⟩ := ok_of_bind hfold
  obtain ⟨s₁', hbefore', h₁⟩ := foldlM_define_erased hbefore
  have hactive₁ : s₁.holds e'.condition = .ok true :=
    (holds_of_foldlM_define hbefore _).trans hactive
  rw [← List.append_assoc, List.foldlM_append, hbefore']
  exact AgreeBut.foldlM_define_cons (htype ▸ h₁) hactive₁ hlast

/-- In a later group, the later definition replaces the earlier one. -/
theorem AgreeBut.step_eq {first last : List DefinitionElement} {e : DefinitionElement}
    (h : s.AgreeBut e.type s') (hgroup : s.holds condition = .ok true)
    (hactive : s.holds e.condition = .ok true)
    (hstep : s.step (.definitions condition (first ++ e :: last)) = .ok (t, made)) :
    s'.step (.definitions condition (first ++ e :: last)) = .ok (t, made) := by
  have hgroup' : s'.holds condition = .ok true := (h.holds_eq _).trans hgroup
  rw [step_definitions_eq_ok, change_eq_foldlM hgroup] at hstep
  rw [step_definitions_eq_ok, change_eq_foldlM hgroup']
  exact ⟨h.foldlM_define_append hactive hstep.1, hstep.2⟩

/-- Scopes that agree but for a type come to the same end if the type is defined before an item starts
    from it. -/
theorem AgreeBut.walk_eq {s₂ : Scope} {groups after : ProjectDocument}
    {first last : List DefinitionElement} {e : DefinitionElement} {between all : List ItemValue}
    (h : s.AgreeBut e.type s') (hgroups : s.walk groups = .ok (s₂, between))
    (hbetween : ∀ i ∈ between, Builder.definedType i.type ≠ e.type)
    (hgroup : s₂.holds condition = .ok true) (hactive : s₂.holds e.condition = .ok true)
    (hwalk : s.walk (groups ++ .definitions condition (first ++ e :: last) :: after)
      = .ok (t, all)) :
    s'.walk (groups ++ .definitions condition (first ++ e :: last) :: after) = .ok (t, all) := by
  obtain ⟨s₃, none₁, later, hstep, hlater, rfl⟩ := (walk_append_eq_ok hgroups).mp hwalk
  obtain ⟨s₂', hgroups', h₂⟩ := h.walk hgroups hbetween
  have hstep' := h₂.step_eq hgroup hactive hstep
  exact (walk_append_eq_ok hgroups').mpr ⟨s₃, none₁, later, hstep', hlater, rfl⟩

/-- A walk ends in the same scope and with the same items if a definition is left out that is replaced
    before it is used. -/
theorem walk_erased {old new : PlacedDefinition} {start : Scope} {all : List ItemValue}
    (hreplaced : old.ReplacedBy new start) (h : start.walk old.document = .ok (t, all)) :
    start.walk old.erased = .ok (t, all) := by
  obtain ⟨hsame, hprecedes, htype, s₁, made, s₂, between, hold, hnew, ⟨hgroup, hactive⟩, hbetween⟩ :=
    hreplaced
  obtain ⟨s₃, none₁, later, hstep, hrest, rfl⟩ := (walk_append_eq_ok hold).mp h
  rcases hprecedes with hlength | ⟨hlength, hlength'⟩
  · -- the later definition stands in a later group: up to there the scopes agree but for the type
    obtain ⟨groups, hbefore, hafter⟩ := exists_between hsame.symm hlength
    rw [hbefore] at hnew
    obtain ⟨s₃', none₂, made', hstep', hgroups, hmade⟩ := (walk_append_eq_ok hold).mp hnew
    cases hstep.symm.trans hstep'
    obtain ⟨-, rfl⟩ := step_definitions_eq_ok.mp hstep
    obtain rfl : made' = between := List.append_cancel_left hmade
    obtain ⟨s₃', herased, h₃⟩ := step_erased hstep
    rw [← htype] at h₃ hbetween
    have hrest' : s₃'.walk old.after = .ok (t, later) := by
      rw [hafter] at hrest ⊢
      exact h₃.walk_eq hgroups hbetween hgroup hactive hrest
    exact (walk_append_eq_ok hold).mpr ⟨s₃', [], later, herased, hrest', rfl⟩
  · -- the later definition stands in the same group
    obtain ⟨hbefore, hgroups⟩ := List.append_inj hsame.symm hlength
    obtain ⟨hgroup', -⟩ := List.cons.inj hgroups
    obtain ⟨hcondition, hmembers⟩ := Group.definitions.inj hgroup'
    obtain ⟨elements, -, hlast⟩ := exists_between hmembers hlength'
    rw [← hbefore, hold] at hnew
    obtain ⟨rfl, -⟩ := Prod.mk.inj (Except.ok.inj hnew)
    rw [hlast] at hstep
    have hstep' := step_erased_eq htype (hcondition ▸ hgroup) hactive hstep
    refine (walk_append_eq_ok hold).mpr ⟨s₃, none₁, later, ?_, hrest, rfl⟩
    rw [hlast]
    exact hstep'

/-- A definition that is replaced before it is used is of no account. -/
theorem build_erased {old new : PlacedDefinition} {start : Scope} {times : FileTimes (Except Fault)}
    {v : ProjectValue} (hreplaced : old.ReplacedBy new start)
    (h : start.build times old.document = .ok v) : start.build times old.erased = .ok v := by
  obtain ⟨⟨s, all⟩, hwalk, hresolve⟩ := ok_of_bind h
  rw [build, walk_erased hreplaced hwalk]
  exact hresolve

end Scope

namespace Builder

variable {m : Matching} {files files' : FileTree} {path : Path} {macros : NameTable m}
  {old new : PlacedDefinition} {p : Project} {b : Builder}

/-- **Definitions replace, and never merge.** A project file can be built in which a type is defined,
    and defined again before an item starts from the first definition. Then the file without the
    first one can be built too, and its project is the same: the macros, and all items with their
    properties, in their order. -/
theorem definitions_replace (halike : files.Alike files')
    (hdoc : files.Holds (files.absolute path) old.document)
    (hdoc' : files'.Holds (files'.absolute path) old.erased)
    (hreplaced : old.ReplacedBy new (Scope.start (files.absolute path) macros))
    (h : (build files).run (start files path macros) = .ok p b) :
    ∃ p' b', (build files').run (start files' path macros) = .ok p' b' ∧ p'.value = p.value := by
  have hvalue : (Scope.start (files.absolute path) macros).build files.times old.erased
      = .ok p.value :=
    Scope.build_erased hreplaced (value_of_build hdoc h)
  rw [← halike.absolute_eq, ← halike.times] at hvalue
  exact exists_build hdoc' hvalue

/-- A tree with a project file, given in parts. -/
def projectOf (parts : List String) : FileTree :=
  { root := .directory [(['p'], .file { content := Text.Utf8.encode (parts.flatMap (·.toList)) })]
    current := [] }

theorem alike_projectOf (parts parts' : List String) :
    (projectOf parts).Alike (projectOf parts') :=
  FileTree.alike_of_emptied rfl

/-- Headers start from what is defined for sources. This is defined twice, with another item between. -/
def definedTwice : FileTree := projectOf [
  "<P><ItemDefinitionGroup>", "<ClCompile><D>x</D><O/></ClCompile>",
  "</ItemDefinitionGroup><ItemGroup>", "<N Include='n'/>",
  "</ItemGroup><ItemDefinitionGroup>", "<N/>", "<ClCompile Condition='a==A'>", "<D>y</D></ClCompile>",
  "</ItemDefinitionGroup><ItemGroup>", "<ClInclude Include='h'/>", "</ItemGroup></P>"]

/-- The same project with the later definition alone. -/
def definedOnce : FileTree := projectOf [
  "<P><ItemDefinitionGroup>",
  "</ItemDefinitionGroup><ItemGroup>", "<N Include='n'/>",
  "</ItemGroup><ItemDefinitionGroup>", "<N/>", "<ClCompile Condition='a==A'>", "<D>y</D></ClCompile>",
  "</ItemDefinitionGroup><ItemGroup>", "<ClInclude Include='h'/>", "</ItemGroup></P>"]

/-- The later one of the two definitions. -/
def laterDefinition : PlacedDefinition where
  before := [.definitions none
      [⟨"ClCompile".toList, none, [⟨['D'], none, ['x']⟩, ⟨['O'], none, []⟩]⟩],
    .items none none [⟨['N'], ['n'], none, []⟩]]
  condition := none
  first := [⟨['N'], none, []⟩]
  element := ⟨"ClCompile".toList, some "a==A".toList, [⟨['D'], none, ['y']⟩]⟩
  last := []
  after := [.items none none [⟨"ClInclude".toList, ['h'], none, []⟩]]

/-- The earlier one. -/
def earlierDefinition : PlacedDefinition where
  before := []
  condition := none
  first := []
  element := ⟨"ClCompile".toList, none, [⟨['D'], none, ['x']⟩, ⟨['O'], none, []⟩]⟩
  last := []
  after := [.items none none [⟨['N'], ['n'], none, []⟩],
    .definitions none (laterDefinition.first ++ [laterDefinition.element]),
    .items none none [⟨"ClInclude".toList, ['h'], none, []⟩]]

/-- The header has what the later definition sets, and nothing of the earlier one. -/
theorem definitions_replace_definedTwice :
    let p : Path := ⟨['/'], [['p']]⟩
    let macros : NameTable .ignoringCase := .empty
    ∃ twice b once b', (build definedTwice).run (start definedTwice p macros) = .ok twice b ∧
      (build definedOnce).run (start definedOnce p macros) = .ok once b' ∧
      once.value = twice.value ∧
      twice.value.items.map (fun i => (i.identity, i.properties.entries))
        = [(['n'], []), (['h'], [⟨['D'], ['y']⟩])] := by
  intro p macros
  have hdoc : definedTwice.Holds (definedTwice.absolute p) earlierDefinition.document :=
    FileTree.holds_of_load (by decide +kernel)
  have hdoc' : definedOnce.Holds (definedOnce.absolute p) earlierDefinition.erased :=
    FileTree.holds_of_load (by decide +kernel)
  obtain ⟨twice, b, hbuild, hitems⟩ : ∃ q b,
      (build definedTwice).run (start definedTwice p macros) = .ok q b ∧
      q.value.items.map (fun i => (i.identity, i.properties.entries))
        = [(['n'], []), (['h'], [⟨['D'], ['y']⟩])] :=
    exists_build_of_map hdoc (f := fun v => v.items.map fun i => (i.identity, i.properties.entries))
      (by decide +kernel)
  have halike : definedTwice.Alike definedOnce := alike_projectOf _ _
  have hbetween : ∀ i ∈ [ItemValue.create ['N'] ['n'] none],
      definedType i.type ≠ "ClCompile".toList := List.forall_mem_singleton.mpr (by decide)
  have hreplaced : earlierDefinition.ReplacedBy laterDefinition
      (Scope.start (definedTwice.absolute p) macros) :=
    ⟨rfl, .inl (by decide), rfl, _, [], _, _, rfl, rfl, ⟨rfl, rfl⟩, hbetween⟩
  obtain ⟨once, b', hbuild', hvalue⟩ :=
    definitions_replace halike hdoc hdoc' hreplaced hbuild
  exact ⟨twice, b, once, b', hbuild, hbuild', hvalue, hitems⟩

end Builder

end CompilationDatabase
