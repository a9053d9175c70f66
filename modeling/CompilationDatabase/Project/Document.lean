import CompilationDatabase.Fault
import CompilationDatabase.File.Tree
import CompilationDatabase.Xml.Document

/-!
# Project documents

A project file is a document whose one element holds the whole project (`Source.load`). Whatever is
wrong with the file is located at its path, as the path was given.

A project document is a list of groups, in their order: groups of items, of definitions and of
properties. Groups and what is in them may carry a condition. All other elements are passed over,
and so is an element in an item group that includes nothing.
-/

namespace CompilationDatabase

/-- An element that gives a property a value. -/
structure PropertyElement where
  name : Text
  condition : Option Text
  value : Text
deriving DecidableEq, Repr

/-- An element that includes an item, with the properties that are its own. -/
structure ItemElement where
  type : Text
  identity : Text
  condition : Option Text
  properties : List PropertyElement
deriving DecidableEq, Repr

/-- An element that defines the properties with which items of a type start. -/
structure DefinitionElement where
  type : Text
  condition : Option Text
  properties : List PropertyElement
deriving DecidableEq, Repr

/-- A group of a project. -/
inductive Group
  | items (label condition : Option Text) (members : List ItemElement)
  | definitions (condition : Option Text) (members : List DefinitionElement)
  | properties (condition : Option Text) (members : List PropertyElement)
deriving DecidableEq, Repr

/-- The names of the elements that are groups. -/
def Group.name : Group → Text
  | items .. => "ItemGroup".toList
  | definitions .. => "ItemDefinitionGroup".toList
  | properties .. => "PropertyGroup".toList

/-- The groups of a project, in order. -/
abbrev ProjectDocument := List Group

namespace Xml.Element

/-- The condition of an element. -/
def condition? (e : Element) : Option Text := e.attribute? "Condition".toList

/-- The property that an element gives a value. -/
def property (e : Element) : PropertyElement := ⟨e.name, e.condition?, e.text⟩

/-- The properties that the elements in an element give values. -/
def properties (e : Element) : List PropertyElement := e.children.map property

/-- The item that an element includes, if it includes one. -/
def item? (e : Element) : Option ItemElement := do
  let identity ← e.attribute? "Include".toList
  return ⟨e.name, identity, e.condition?, e.properties⟩

/-- The definition that an element gives. -/
def definition (e : Element) : DefinitionElement := ⟨e.name, e.condition?, e.properties⟩

/-- The group that an element is, if it is one. -/
def group? (e : Element) : Option Group :=
  if e.name = "ItemGroup".toList then
    some (.items (e.attribute? "Label".toList) e.condition? (e.children.filterMap item?))
  else if e.name = "ItemDefinitionGroup".toList then
    some (.definitions e.condition? (e.children.map definition))
  else if e.name = "PropertyGroup".toList then
    some (.properties e.condition? e.properties)
  else none

end Xml.Element

/-- The document that an element holds, whatever its own name. -/
def ProjectDocument.ofElement (e : Xml.Element) : ProjectDocument :=
  e.children.filterMap (·.group?)

/-! ## Reading the file -/

namespace Source

/-- The fault for a document that cannot be read. -/
def fault (path : Text) : Xml.Flaw → Fault
  | .malformed => .failed .malformedProject (some path)
  | .unknownEncoding name => .unknownEncoding name
  | .noEncoding name => .noEncoding name
  | .wideEncoding => .wideEncoding
  | .refusingEncoding words => .refusingEncoding words

/-- The element that a project file holds. -/
def load (files : FileTree) (path : Text) : Except Fault Xml.Element :=
  match files.read path with
  | .error e => .error (.ofFile .unreadableProject path e)
  | .ok octets => (Xml.Document.read octets).mapError (fault path)

end Source

end CompilationDatabase
