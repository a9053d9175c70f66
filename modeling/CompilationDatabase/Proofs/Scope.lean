import CompilationDatabase.Project.Basic
import CompilationDatabase.Proofs.Computations

/-!
# Scopes — a project read by value

A builder keeps property tables in a store, where items and definitions refer to them. Here a project
is read without a store: an item has its properties in it, and a definition is a table. What is in
effect at some place of a project is a `Scope`; a group of items is read in a scope and leaves it as it
is, and any other group gives the scope for what follows it.

* `Scope.step` reads one group, and `Scope.walk` a document: its result are the last scope and the
  items, in their order.
* `Scope.build` ends a walk as a builder does: every item is resolved in the last scope.

Nothing is shared here, so an item cannot change what another one shows. That a builder goes the same
way is said in `Sharing`.
-/

namespace CompilationDatabase

/-- An item with its properties in the place of a reference to them. -/
structure ItemValue where
  type : Text
  identity : Text
  projectDir : Text := []
  owns : Bool
  properties : PropertyTable

namespace ItemValue

/-- A new item with the defaults for its type, if there are any. -/
def create (type identity : Text) (defaults : Option PropertyTable) : ItemValue where
  type := type
  identity := identity
  owns := defaults.isNone
  properties := defaults.getD .empty

/-- What the item is derived from. -/
def origin (i : ItemValue) : Origin := ⟨i.identity, i.projectDir⟩

/-- The item with a property set. -/
def setProperty (i : ItemValue) (name value : Text) : ItemValue :=
  { i with owns := true, properties := i.properties.insert name value }

/-- The item with properties set, one after the other; a value may refer to the one before. -/
def extend (i : ItemValue) (overrides : List Entry) : ItemValue :=
  overrides.foldl (fun i e =>
    i.setProperty e.name (Item.inherit e.name ((i.properties.get? e.name).getD []) e.value)) i

theorem identity_extend (i : ItemValue) (es : List Entry) :
    (i.extend es).identity = i.identity := by
  induction es generalizing i with
  | nil => rfl
  | cons e es ih => exact ih _

theorem type_extend (i : ItemValue) (es : List Entry) : (i.extend es).type = i.type := by
  induction es generalizing i with
  | nil => rfl
  | cons e es ih => exact ih _

end ItemValue

/-- A project with the properties of its items in their places. -/
structure ProjectValue where
  name : Text
  path : Path
  macros : NameTable .ignoringCase
  items : List ItemValue

/-- What is in effect at a place of a project. -/
structure Scope where
  /-- The path of the project file. -/
  path : Path
  macros : NameTable .ignoringCase
  /-- The defaults for the types that are defined. -/
  definitions : Text → Option PropertyTable

namespace Scope

/-- What is in effect before the first group. -/
def start {m : Matching} (path : Path) (macros : NameTable m) : Scope :=
  ⟨path, .ofTable macros, fun _ => none⟩

/-- Where faults are found. -/
def location (s : Scope) : Text := s.path.text

/-! ## Groups -/

/-- Whether a condition holds. -/
def holds (s : Scope) (condition : Option Text) : Except Fault Bool :=
  Condition.holds? (some s.location) s.macros condition

/-- The properties that some elements set. -/
def collect (s : Scope) (elements : List PropertyElement) :
    Except Fault (NameTable .ignoringCase) :=
  elements.foldlM (fun table e => do
    if ← s.holds e.condition then return table.insert e.name e.value
    else return table) .empty

/-- The item that an element includes, if its condition holds. -/
def item? (s : Scope) (e : ItemElement) : Except Fault (Option ItemValue) := do
  if ← s.holds e.condition then
    let overrides ← s.collect e.properties
    let defaults := s.definitions (Builder.definedType e.type)
    return some ((ItemValue.create e.type e.identity defaults).extend overrides.entries)
  else return none

/-- The items that some elements include. -/
def items (s : Scope) : List ItemElement → Except Fault (List ItemValue)
  | [] => return []
  | e :: es => do
    let item ← s.item? e
    let items ← s.items es
    return item.toList ++ items

/-- The scope after a definition. -/
def define (s : Scope) (e : DefinitionElement) : Except Fault Scope := do
  if ← s.holds e.condition then
    let properties ← s.collect e.properties
    return { s with
      definitions := fun type =>
        if type = e.type then some ⟨.ignoringCase, properties⟩ else s.definitions type }
  else return s

/-- The scope after a macro is set. -/
def assign (s : Scope) (e : PropertyElement) : Except Fault Scope := do
  if ← s.holds e.condition then return { s with macros := s.macros.insert e.name e.value }
  else return s

/-- The scope after a group whose members change it one after the other. -/
def change {α : Type} (s : Scope) (condition : Option Text) (f : Scope → α → Except Fault Scope)
    (members : List α) : Except Fault Scope := do
  if ← s.holds condition then members.foldlM f s
  else return s

/-- The scope after a group, and the items that it includes. -/
def step (s : Scope) : Group → Except Fault (Scope × List ItemValue)
  | .items (some _) _ _ => return (s, [])
  | .items none condition members => do
    if ← s.holds condition then
      let items ← s.items members
      return (s, items)
    else return (s, [])
  | .definitions condition members => do
    let s ← s.change condition define members
    return (s, [])
  | .properties condition members => do
    let s ← s.change condition assign members
    return (s, [])

/-- The scope after a document, and the items that it includes. -/
def walk (s : Scope) : ProjectDocument → Except Fault (Scope × List ItemValue)
  | [] => return (s, [])
  | g :: gs => do
    let (s, items) ← s.step g
    let (s, more) ← s.walk gs
    return (s, items ++ more)

/-- A document is walked through part by part. -/
theorem walk_append (s : Scope) (before after : ProjectDocument) :
    s.walk (before ++ after) = do
      let (s, items) ← s.walk before
      let (s, more) ← s.walk after
      return (s, items ++ more) := by
  induction before generalizing s with
  | nil =>
      simp only [walk, List.nil_append, pure_bind]
      exact (bind_pure _).symm
  | cons g gs ih =>
      simp only [walk, List.cons_append, ih, bind_assoc, pure_bind, List.append_assoc]

/-! ## Walks that end -/

variable {s s' : Scope}

theorem item?_eq_ok {e : ItemElement} {made : Option ItemValue}
    (hincluded : s.holds e.condition = .ok true) :
    s.item? e = .ok made
      ↔ ∃ t, s.collect e.properties = .ok t ∧ some ((ItemValue.create e.type e.identity
        (s.definitions (Builder.definedType e.type))).extend t.entries) = made := by
  simp [item?, hincluded, pure, Except.pure]

/-- A group whose condition holds is changed member by member. -/
theorem change_eq_foldlM {α : Type} {f : Scope → α → Except Fault Scope} {condition : Option Text}
    (hgroup : s.holds condition = .ok true) (members : List α) :
    s.change condition f members = members.foldlM f s := by
  rw [change, hgroup]
  rfl

/-- An active group of items leaves the scope as it is. -/
theorem step_items_eq_ok {condition : Option Text} {members : List ItemElement}
    {made : List ItemValue} (hgroup : s.holds condition = .ok true) :
    s.step (.items none condition members) = .ok (s', made)
      ↔ s.items members = .ok made ∧ s = s' := by
  simp [step, hgroup, pure, Except.pure]

/-- A group of definitions includes no items. -/
theorem step_definitions_eq_ok {condition : Option Text} {members : List DefinitionElement}
    {made : List ItemValue} :
    s.step (.definitions condition members) = .ok (s', made)
      ↔ s.change condition define members = .ok s' ∧ [] = made := by
  simp [step, pure, Except.pure]

theorem walk_append_eq_ok {start : Scope} {before after : ProjectDocument} {g : Group}
    {earlier all : List ItemValue} (hbefore : start.walk before = .ok (s, earlier)) :
    start.walk (before ++ g :: after) = .ok (s', all)
      ↔ ∃ s₁ made later, s.step g = .ok (s₁, made) ∧ s₁.walk after = .ok (s', later) ∧
        earlier ++ (made ++ later) = all := by
  rw [walk_append, hbefore]
  simp [walk, pure, Except.pure]

/-! A project file stays the same on the way through it. -/

theorem path_of_foldlM {α : Type} {f : Scope → α → Except Fault Scope}
    (hf : ∀ {s s' : Scope} {a : α}, f s a = .ok s' → s'.path = s.path) {members : List α}
    (h : members.foldlM f s = .ok s') : s'.path = s.path := by
  induction members generalizing s with
  | nil => cases h; rfl
  | cons a as ih =>
      rw [List.foldlM_cons] at h
      obtain ⟨s₁, hstep, h⟩ := ok_of_bind h
      exact (ih h).trans (hf hstep)

theorem path_of_change {α : Type} {f : Scope → α → Except Fault Scope}
    (hf : ∀ {s s' : Scope} {a : α}, f s a = .ok s' → s'.path = s.path) {condition : Option Text}
    {members : List α} (h : s.change condition f members = .ok s') : s'.path = s.path := by
  obtain ⟨active, -, h⟩ := ok_of_bind h
  cases active with
  | false => cases h; rfl
  | true => exact path_of_foldlM hf h

theorem path_of_define {e : DefinitionElement} (h : s.define e = .ok s') : s'.path = s.path := by
  obtain ⟨active, -, h⟩ := ok_of_bind h
  cases active with
  | false => cases h; rfl
  | true =>
      obtain ⟨properties, -, h⟩ := ok_of_bind h
      cases h
      rfl

theorem path_of_assign {e : PropertyElement} (h : s.assign e = .ok s') : s'.path = s.path := by
  obtain ⟨active, -, h⟩ := ok_of_bind h
  cases active <;> cases h <;> rfl

theorem path_of_step {g : Group} {items : List ItemValue} (h : s.step g = .ok (s', items)) :
    s'.path = s.path := by
  cases g with
  | items label condition members =>
      cases label with
      | some label => cases h; rfl
      | none =>
          obtain ⟨active, -, h⟩ := ok_of_bind h
          cases active with
          | false => cases h; rfl
          | true =>
              obtain ⟨items, -, h⟩ := ok_of_bind h
              cases h
              rfl
  | definitions condition members =>
      obtain ⟨s₁, hchange, h⟩ := ok_of_bind h
      cases h
      exact path_of_change path_of_define hchange
  | properties condition members =>
      obtain ⟨s₁, hchange, h⟩ := ok_of_bind h
      cases h
      exact path_of_change path_of_assign hchange

theorem path_of_walk {document : ProjectDocument} {items : List ItemValue}
    (h : s.walk document = .ok (s', items)) : s'.path = s.path := by
  induction document generalizing s items with
  | nil => cases h; rfl
  | cons g gs ih =>
      obtain ⟨⟨s₁, first⟩, hstep, h⟩ := ok_of_bind h
      obtain ⟨⟨s₂, more⟩, hwalk, h⟩ := ok_of_bind h
      cases h
      exact (ih hwalk).trans (path_of_step hstep)

/-! ## The end of a walk -/

/-- An item with the value of a property expanded. -/
def resolveProperty (s : Scope) (times : FileTimes (Except Fault)) (i : ItemValue) (e : Entry) :
    Except Fault ItemValue := do
  let value ← i.origin.expandProperty times (some s.location) e.name s.macros e.value
  return i.setProperty e.name value

/-- An item with its identity and its properties expanded. -/
def resolve (s : Scope) (times : FileTimes (Except Fault)) (i : ItemValue) :
    Except Fault ItemValue := do
  let identity ← s.macros.expand (some s.location) i.identity
  let i := { i with identity, projectDir := Path.dirName s.location }
  i.properties.entries.foldlM (s.resolveProperty times) i

theorem resolve_congr {s s' : Scope} {times : FileTimes (Except Fault)} (hpath : s'.path = s.path)
    (hmacros : s'.macros = s.macros) : s'.resolve times = s.resolve times := by
  cases s
  cases s'
  cases hpath
  cases hmacros
  rfl

/-- The project with some items; it is named by its macro, or else by its file. -/
def project (s : Scope) (items : List ItemValue) : ProjectValue where
  name := (s.macros.get? Project.nameMacro).getD s.path.stem
  path := s.path
  macros := s.macros
  items := items

/-- The project that a document describes. -/
def build (s : Scope) (times : FileTimes (Except Fault)) (document : ProjectDocument) :
    Except Fault ProjectValue := do
  let (s, items) ← s.walk document
  let items ← items.mapM (s.resolve times)
  return s.project items

end Scope

end CompilationDatabase
