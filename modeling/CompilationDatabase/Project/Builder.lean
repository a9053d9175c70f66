import CompilationDatabase.Condition
import CompilationDatabase.Item.Basic
import CompilationDatabase.Notice
import CompilationDatabase.Project.Document

/-!
# Builders — a project file walked once

A `Builder` walks the groups of a project from top to bottom. Conditions see the macros that are set
so far, and an item takes the definition for its type that is in effect where the item is included.
When the walk is done, `resolveItems` expands the identity and the properties of every item with the
macros as they are then.

A builder keeps what was done before a fault, and it may walk again: macros, definitions and items
stay.
-/

namespace CompilationDatabase

/-- The state of the walk through a project file. -/
structure Builder where
  /-- The absolute path of the file. -/
  path : Path
  macros : NameTable .ignoringCase
  /-- The place of the table of defaults for each type that is defined, in order. -/
  definitions : List (Text × Nat) := []
  items : List Item := []
  store : PropertyStore := {}
  notices : List Notice := []

/-- A step of a builder. -/
abbrev Building := EStateM Fault Builder

namespace Builder

/-- A builder for the file at a path, with macros to start from. -/
def start {m : Matching} (files : FileTree) (path : Path) (macros : NameTable m) : Builder :=
  { path := files.absolute path, macros := .ofTable macros }

/-- Where faults are found. -/
def location (b : Builder) : Text := b.path.text

/-- Tells something. -/
def tell (n : Notice) : Building Unit := modify fun b => { b with notices := b.notices ++ [n] }

/-- Does something to the property tables. -/
def withTables {α : Type} (f : StateM PropertyStore α) : Building α :=
  modifyGet fun b =>
    let (a, store) := f.run b.store
    (a, { b with store })

/-- Whether the condition of an element holds with the macros that are set so far. -/
def isActive (name : Text) (condition : Option Text) : Building Bool := do
  let b ← get
  let holds ← ofExcept (Condition.holds? (some b.location) b.macros condition)
  unless holds do tell (.skippedElement name (condition.getD []))
  return holds

/-- The properties that some elements set, one after the other. -/
def collect (elements : List PropertyElement) : Building (NameTable .ignoringCase) :=
  elements.foldlM (fun table e => do
    if ← isActive e.name e.condition then return table.insert e.name e.value
    else return table) .empty

/-! ## The walk -/

/-- The type whose definition items of a type start from. -/
def definedType (type : Text) : Text :=
  if type = "ClInclude".toList then "ClCompile".toList else type

/-- The definitions with one set: in its place if the type is defined already, else at the end. -/
def setDefinition (type : Text) (table : Nat) : List (Text × Nat) → List (Text × Nat)
  | [] => [(type, table)]
  | d :: ds => if d.1 = type then (type, table) :: ds else d :: setDefinition type table ds

/-- Adds the item that an element includes. -/
def addItem (e : ItemElement) : Building Unit := do
  if ← isActive e.type e.condition then
    let b ← get
    let item ← withTables (Item.create e.type e.identity (b.definitions.lookup (definedType e.type)))
    let overrides ← collect e.properties
    let item ← withTables (item.extend overrides.entries)
    modify fun b => { b with items := b.items ++ [item] }

/-- Sets a definition. It replaces an earlier one for its type. -/
def addDefinition (e : DefinitionElement) : Building Unit := do
  if ← isActive e.type e.condition then
    let properties ← collect e.properties
    let table ← withTables (PropertyStore.add ⟨.ignoringCase, properties⟩)
    modify fun b => { b with definitions := setDefinition e.type table b.definitions }

/-- Sets a macro. -/
def addMacro (e : PropertyElement) : Building Unit := do
  if ← isActive e.name e.condition then
    modify fun b => { b with macros := b.macros.insert e.name e.value }

/-- Walks through a group. A labelled group of items is passed over whatever its condition. -/
def addGroup (g : Group) : Building Unit := do
  match g with
  | .items (some label) _ _ => tell (.skippedItemGroup label)
  | .items none condition members =>
    if ← isActive g.name condition then members.forM addItem
  | .definitions condition members =>
    if ← isActive g.name condition then members.forM addDefinition
  | .properties condition members =>
    if ← isActive g.name condition then members.forM addMacro

/-- Walks through a document. -/
def walk (document : ProjectDocument) : Building Unit := document.forM addGroup

/-- Reads the project file and walks through it. -/
def walkFile (files : FileTree) : Building Unit := do
  let b ← get
  match Source.load files b.location with
  | .ok root => walk (.ofElement root)
  | .error fault => throw fault

/-! ## The end of the walk -/

/-- Puts an item in the place of an earlier state of it. -/
def putItem (place : Nat) (item : Item) : Building Unit :=
  modify fun b => { b with items := b.items.set place item }

/-- Expands the value of a property of the item at a place. -/
def resolveProperty (files : FileTree) (place : Nat) (item : Item) (e : Entry) :
    Building Item := do
  let b ← get
  let value ← ofExcept
    (item.origin.expandProperty files.times (some b.location) e.name b.macros e.value)
  let item ← withTables (item.setProperty e.name value)
  putItem place item
  return item

/-- Expands the identity and the properties of the item at a place. -/
def resolveItem (files : FileTree) (place : Nat) (item : Item) : Building Unit := do
  let b ← get
  let item := { item with projectDir := Path.dirName b.location }
  putItem place item
  let identity ← ofExcept (b.macros.expand (some b.location) item.identity)
  let item := { item with identity }
  putItem place item
  discard <| (item.properties b.store).entries.foldlM (resolveProperty files place) item

/-- Expands the identities and the properties of all items. -/
def resolveItems (files : FileTree) : Building Unit := do
  let b ← get
  b.items.zipIdx.forM fun (item, place) => resolveItem files place item

end Builder

end CompilationDatabase
