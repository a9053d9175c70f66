import CompilationDatabase.NameTable
import CompilationDatabase.Xml.Name

/-!
# Content of documents

`Content` is what stands between the tags of an element: texts and further elements, one after the
other. An `Element` is a tag with its content. Elements of a project are told apart by their tags
alone, so a tag has a plain name, whatever namespace it is in, and so have its attributes.
-/

namespace CompilationDatabase.Xml

/-- Texts and elements in a row; `τ` is what is known of the tag of an element. -/
inductive Content (τ : Type)
  | done
  | text (t : Text) (rest : Content τ)
  | element (tag : τ) (inner rest : Content τ)
deriving Repr

/-- A tag: the name of an element, and its attributes. -/
structure Tag where
  name : Text
  attributes : NameTable .exact

/-- An element of a document. -/
structure Element where
  tag : Tag
  content : Content Tag

namespace Content

/-- The text of some content and of all elements in it. -/
def allText {τ : Type} : Content τ → Text
  | done => []
  | text t rest => t ++ rest.allText
  | element _ inner rest => inner.allText ++ rest.allText

/-- The elements of some content, those inside others left out. -/
def elements : Content Tag → List Element
  | done => []
  | text _ rest => rest.elements
  | element tag inner rest => ⟨tag, inner⟩ :: rest.elements

end Content

namespace Element

/-- The name of an element. -/
def name (e : Element) : Text := e.tag.name

/-- The value of an attribute. -/
def attribute? (e : Element) (name : Text) : Option Text := e.tag.attributes.get? name

/-- The elements that an element consists of. -/
def children (e : Element) : List Element := e.content.elements

/-- The text of an element and of all elements in it. -/
def text (e : Element) : Text := e.content.allText

end Element

end CompilationDatabase.Xml
