import CompilationDatabase.Xml.Content
import CompilationDatabase.Xml.Markup

/-!
# Namespaces

An attribute that declares a scope binds it to a namespace, for its element and all in it. A tag is
right if its scope and those of its attributes are bound and no attribute is there twice. Then only
labels count: the tag of an `Element` has the label as its name, and attributes with a scope are set
over those without one.
-/

namespace CompilationDatabase.Xml

/-- Scopes and the namespaces that they are bound to, innermost first. -/
abbrev Bindings := List (Text × Text)

namespace Bindings

/-- The scope of names that XML itself gives a meaning. -/
def xmlScope : Text := "xml".toList

/-- The namespace of the names that XML itself gives a meaning. -/
def xmlNamespace : Text := "http://www.w3.org/XML/1998/namespace".toList

/-- The scope of attributes that declare a scope. -/
def declaringScope : Text := "xmlns".toList

/-- The namespace of attributes that declare a scope. -/
def declaringNamespace : Text := "http://www.w3.org/2000/xmlns/".toList

/-- The scopes that are bound in every document. -/
def initial : Bindings := [(xmlScope, xmlNamespace)]

/-- The scope that an attribute declares: the empty one for names without a scope. -/
def declared? (name : Name) : Option Text :=
  if name.scope = [] ∧ name.label = declaringScope then some []
  else if name.scope = declaringScope then some name.label
  else none

/-- Whether a scope may be bound to a namespace. -/
def mayBind (scope ns : Text) : Bool :=
  scope ≠ declaringScope && (scope = [] || ns ≠ []) && '}' ∉ ns
    && (scope = xmlScope) == (ns = xmlNamespace) && ns ≠ declaringNamespace

/-- The bindings with those that some attributes declare. -/
def declare? (bindings : Bindings) (attributes : List (Name × Text)) : Option Bindings :=
  attributes.foldlM (fun bindings (name, value) =>
    match declared? name with
    | none => some bindings
    | some scope => if mayBind scope value then some ((scope, value) :: bindings) else none)
    bindings

/-- Whether a scope is bound; names need not have a scope. -/
def binds (bindings : Bindings) (scope : Text) : Bool :=
  scope.isEmpty || (bindings.lookup scope).isSome

end Bindings

namespace StartTag

/-- The tag of an element, where scopes are bound. -/
def tag? (tag : StartTag) (bindings : Bindings) : Option Tag :=
  let attributes := tag.attributes.filter fun a => (Bindings.declared? a.1).isNone
  let plain := attributes.filter (·.1.scope.isEmpty)
  let qualified := attributes.filter (!·.1.scope.isEmpty)
  let expanded := qualified.map fun a => (bindings.lookup a.1.scope, a.1.label)
  if bindings.binds tag.name.scope ∧ qualified.all (bindings.binds ·.1.scope) ∧ expanded.Nodup then
    some ⟨tag.name.label, .ofList ((plain ++ qualified).map fun a => ⟨a.1.label, a.2⟩)⟩
  else none

end StartTag

/-- Content in which names are told apart by their labels, where scopes are bound. -/
def Content.labelled? : Content StartTag → Bindings → Option (Content Tag)
  | done, _ => some done
  | text t rest, bindings => do return text t (← rest.labelled? bindings)
  | element tag inner rest, bindings => do
    let within ← bindings.declare? tag.attributes
    return element (← tag.tag? within) (← inner.labelled? within) (← rest.labelled? bindings)

end CompilationDatabase.Xml
