import CompilationDatabase.Item.ExternalIncludes
import CompilationDatabase.Metadata

/-!
# Items and the tables of their properties

The property tables of a project are kept in a `PropertyStore`, and an item refers to one of them.
Items of one type start by borrowing the table of defaults that is in effect for the type; the first
change to the properties of an item gives it a table of its own, a copy. So a default table never
changes, and no item sees what another one changed.
-/

namespace CompilationDatabase

/-- A property table, with the rule by which its names are matched. -/
structure PropertyTable where
  matching : Matching
  table : NameTable matching

namespace PropertyTable

/-- The table without properties, whose names match in all letter cases. -/
def empty : PropertyTable := ⟨.ignoringCase, .empty⟩

/-- A copy whose names match in all letter cases. -/
def copy (t : PropertyTable) : PropertyTable := ⟨.ignoringCase, .ofTable t.table⟩

/-- The entries, in order. -/
def entries (t : PropertyTable) : List Entry := t.table.entries

/-- The value of a property. -/
def get? (t : PropertyTable) (name : Text) : Option Text := t.table.get? name

/-- The table with a property set. -/
def insert (t : PropertyTable) (name value : Text) : PropertyTable :=
  ⟨t.matching, t.table.insert name value⟩

/-- The table without a property. -/
def erase (t : PropertyTable) (name : Text) : PropertyTable := ⟨t.matching, t.table.erase name⟩

end PropertyTable

/-- The property tables of a project; a table is referred to by its place. -/
structure PropertyStore where
  tables : Array PropertyTable := #[]

namespace PropertyStore

/-- The table at a place. -/
def table (s : PropertyStore) (place : Nat) : PropertyTable := s.tables[place]?.getD .empty

/-- Adds a table, and tells its place. -/
def add (t : PropertyTable) : StateM PropertyStore Nat := do
  let s ← get
  set { s with tables := s.tables.push t }
  return s.tables.size

/-- Changes the table at a place. -/
def change (place : Nat) (f : PropertyTable → PropertyTable) : StateM PropertyStore Unit :=
  modify fun s => { s with tables := s.tables.modify place f }

end PropertyStore

/-- One entry of an item group: a source file, and where its properties are. -/
structure Item where
  type : Text
  /-- The path of the file as it is written. -/
  identity : Text
  /-- The directory of the project, known once the project is resolved. -/
  projectDir : Text := []
  /-- The place of the property table. -/
  table : Nat
  /-- Whether the table belongs to this item alone. -/
  owns : Bool
deriving DecidableEq, Repr

namespace Item

/-- A new item. It borrows the table of defaults at a place, or has an empty table of its own. -/
def create (type identity : Text) (defaults : Option Nat) : StateM PropertyStore Item := do
  match defaults with
  | some table => return { type, identity, table, owns := false }
  | none =>
    let table ← PropertyStore.add .empty
    return { type, identity, table, owns := true }

/-- The properties of an item. -/
def properties (i : Item) (s : PropertyStore) : PropertyTable := s.table i.table

/-- What the item is derived from. -/
def origin (i : Item) : Origin := ⟨i.identity, i.projectDir⟩

/-- The path of the file. -/
def fullPath (i : Item) : Text := i.origin.fullPath

/-- The item with a table of its own. -/
def own (i : Item) : StateM PropertyStore Item := do
  if i.owns then return i
  else
    let table ← PropertyStore.add (i.properties (← get)).copy
    return { i with table, owns := true }

/-- Sets a property. -/
def setProperty (i : Item) (name value : Text) : StateM PropertyStore Item := do
  let i ← i.own
  PropertyStore.change i.table (·.insert name value)
  return i

/-- Removes a property; nothing happens if the item does not have it. -/
def removeProperty (i : Item) (name : Text) : StateM PropertyStore Item := do
  if ((i.properties (← get)).get? name).isSome then
    let i ← i.own
    PropertyStore.change i.table (·.erase name)
    return i
  else return i

/-- A value in which the value that a property had before stands for each reference to it. -/
def inherit (name inherited value : Text) : Text :=
  Text.replaceWord '%' ('(' :: name ++ [')']) inherited value

/-- Sets properties, one after the other; a value may refer to the one that it takes the place of. -/
def extend (i : Item) (overrides : List Entry) : StateM PropertyStore Item :=
  overrides.foldlM (fun i e => do
    let inherited := ((i.properties (← get)).get? e.name).getD []
    i.setProperty e.name (inherit e.name inherited e.value)) i

/-- The property that holds the options of an item. -/
def optionsName : Text := "AdditionalOptions".toList

/-- The property that holds the include directories of an item. -/
def includesName : Text := "AdditionalIncludeDirectories".toList

/-- Moves the external include options to the include directories: each directory is put in front of
    the ones before it. Options that hold nothing else are removed. -/
def convertExternalIncludes (i : Item) : StateM PropertyStore Item := do
  let properties := i.properties (← get)
  match ExternalIncludes.takeOut ((properties.get? optionsName).getD []) with
  | ([], _) => return i
  | (directories, options) =>
    let includes := directories.foldl ExternalIncludes.prepend
      ((properties.get? includesName).getD [])
    let i ← i.setProperty includesName includes
    let options := options.strip
    if options = [] then i.removeProperty optionsName else i.setProperty optionsName options

/-- The item as one line. -/
def shown (i : Item) : Text :=
  "Item(".toList ++ i.type.literal ++ ", ".toList ++ i.identity.literal ++ [')']

end Item

end CompilationDatabase
