import CompilationDatabase.Xml.Reference

/-!
# Document types

A document may declare entities, whose text stands where they are referred to, and attributes, which
may have a value where none is written. What is declared first counts.

* `Doctype.value?` is the value of an attribute, from the text in its quotes.
* `Doctype.complete` adds the attributes that are declared and not written.
-/

namespace CompilationDatabase.Xml

/-- What an entity stands for. -/
inductive Entity
  /-- A text. -/
  | internal (text : Text)
  /-- Something in another file. -/
  | external
deriving DecidableEq, Repr

/-- What is declared of an attribute. -/
structure AttributeRule where
  element : Name
  name : Name
  /-- Whether its value is any text; otherwise the value is a list of words. -/
  isText : Bool
  /-- The value where none is written. -/
  value : Option Text
deriving DecidableEq, Repr

/-- What a document declares, and how its names are made. -/
structure Doctype where
  /-- Whether the signs `ª`, `µ` and `º` are letters. -/
  signs : Bool := false
  entities : List (Text × Entity) := []
  rules : List AttributeRule := []
  /-- Whether there may be declarations that were not read. -/
  isPartial : Bool := false
deriving DecidableEq, Repr

namespace Doctype

/-- The text of a value up to an ampersand: white space counts as blanks, and no tag may start. -/
def plainValue? (t : Text) : Option Text :=
  if '<' ∈ t then none else some (t.map fun c => if isSpace c then ' ' else c)

/-- The value that is written by a text, given the values of entities. -/
def valueWith? (signs : Bool) (entity : Text → Option Text) (t : Text) : Option Text :=
  match t.pieces '&' with
  | [] => some []
  | first :: others => do
    let first ← plainValue? first
    let others ← others.mapM fun piece => do
      let (reference, rest) ← reference? signs piece
      let here ← match reference with
        | .char c => some [c]
        | .entity name =>
          match knownEntity? name with
          | some c => some [c]
          | none => entity name
      return here ++ (← plainValue? rest)
    return first ++ others.flatten

/-- The value of an entity, where further entities may be used so deep in it. -/
def entityValue? (d : Doctype) (depth : Nat) (name : Text) : Option Text :=
  match d.entities.lookup name with
  | some (.internal text) =>
    match depth with
    | 0 => none
    | depth + 1 => valueWith? false (d.entityValue? depth) text
  | some .external => none
  | none => if d.isPartial then some [] else none

/-- The value of an attribute, from the text in its quotes. An entity that is used inside itself has
    no value. The signs are no letters in the texts of entities. -/
def value? (d : Doctype) (t : Text) : Option Text :=
  valueWith? d.signs (d.entityValue? d.entities.length) t

/-- A value as a list of words, with single blanks between them. -/
def words (t : Text) : Text := Text.join ' ' ((t.pieces ' ').filter (· ≠ []))

/-- The attributes of an element, with those that are declared and not written. -/
def complete (d : Doctype) (element : Name) (attributes : List (Name × Text)) :
    List (Name × Text) :=
  let rules := d.rules.filter (·.element = element)
  let written := attributes.map fun (name, value) =>
    match rules.find? (·.name = name) with
    | some rule => (name, if rule.isText then value else words value)
    | none => (name, value)
  rules.foldl (fun written rule =>
    match rule.value with
    | some value =>
      if written.any (·.1 = rule.name) then written else written ++ [(rule.name, value)]
    | none => written) written

/-- Declares an entity, unless it is declared already. -/
def addEntity (d : Doctype) (name : Text) (entity : Entity) : Doctype :=
  if (d.entities.lookup name).isSome then d
  else { d with entities := d.entities ++ [(name, entity)] }

/-- Declares an attribute, unless it is declared already. -/
def addRule (d : Doctype) (rule : AttributeRule) : Doctype :=
  if d.rules.any fun r => r.element = rule.element ∧ r.name = rule.name then d
  else { d with rules := d.rules ++ [rule] }

end Doctype

end CompilationDatabase.Xml
