import CompilationDatabase.Xml.Content
import CompilationDatabase.Xml.Doctype.Basic
import CompilationDatabase.Xml.Name

/-!
# Markup — elements as they are written

Content is read from left to right: comments and instructions leave nothing, text stays as it is,
references and marked sections give text, a tag opens an element that goes on to the end tag of the
same name. A reference to an entity gives the content of its text, which is whole by itself: no
element reaches into it or out of it.

* `StartTag.read?` reads a tag after its bracket, with the attributes that are declared for it.
* `Content.read?` reads up to an end tag that opens nothing, or to the end.
-/

namespace CompilationDatabase.Xml

open Text (after?)

/-- A tag as it is written. -/
structure StartTag where
  name : Name
  attributes : List (Name × Text)
deriving DecidableEq, Repr

namespace StartTag

/-- Reads an attribute: its name, and its value in quotes. -/
def attribute? (d : Doctype) (t : Text) : Option ((Name × Text) × Text) := do
  let (name, rest) ← name? d.signs t
  let rest ← after? "=" (skipSpace rest)
  let (text, rest) ← quoted? (skipSpace rest)
  return ((name, ← d.value? text), rest)

/-- Reads attributes to the end of a tag, and whether the element ends with the tag; there are at
    most so many. -/
def attributes? (d : Doctype) : Nat → Text → Option (List (Name × Text) × Bool × Text)
  | 0, _ => none
  | fuel + 1, t =>
    match skipSpace t with
    | '>' :: rest => some ([], false, rest)
    | '/' :: '>' :: rest => some ([], true, rest)
    | _ => do
      let (first, rest) ← attribute? d (← space? t)
      let (others, isEmpty, rest) ← attributes? d fuel rest
      return (first :: others, isEmpty, rest)

/-- Reads a tag after its bracket, and whether the element ends with it. No attribute is written
    twice; those that are declared and not written are added. -/
def read? (d : Doctype) (t : Text) : Option (StartTag × Bool × Text) := do
  let (name, rest) ← name? d.signs t
  let (attributes, isEmpty, rest) ← attributes? d (rest.length + 1) rest
  if (attributes.map (·.1)).Nodup then
    return (⟨name, d.complete name attributes⟩, isEmpty, rest)
  else none

end StartTag

/-- What follows the end tag of an element. -/
def endTag? (signs : Bool) (name : Name) (t : Text) : Option Text := do
  let (found, rest) ← name? signs (← after? "</" t)
  if found = name then after? ">" (skipSpace rest) else none

/-- Reads an element after its bracket, given how to read what is in it. -/
def element? (d : Doctype) (inner? : Text → Option (Content StartTag × Text)) (t : Text) :
    Option (StartTag × Content StartTag × Text) := do
  let (tag, isEmpty, rest) ← StartTag.read? d t
  if isEmpty then return (tag, .done, rest)
  else
    let (inner, rest) ← inner? rest
    return (tag, inner, ← endTag? d.signs tag.name rest)

namespace Content

variable {τ : Type}

/-- Content and then other content. -/
def append : Content τ → Content τ → Content τ
  | done, other => other
  | text t rest, other => text t (rest.append other)
  | element tag inner rest, other => element tag inner (rest.append other)

instance : Append (Content τ) := ⟨append⟩

/-- What a reference stands for, given the content of entities. -/
def ofReference? (entity? : Text → Option (Content StartTag)) :
    Reference → Option (Content StartTag)
  | .char c => some (text [c] done)
  | .entity name =>
    match knownEntity? name with
    | some c => some (text [c] done)
    | none => entity? name

/-- Reads content up to an end tag that opens nothing, or to the end; there are at most so many
    parts. -/
def parts? (d : Doctype) (entity? : Text → Option (Content StartTag)) :
    Nat → Text → Option (Content StartTag × Text)
  | 0, _ => none
  | fuel + 1, t =>
    match t with
    | [] => some (done, [])
    | '<' :: '/' :: rest => some (done, '<' :: '/' :: rest)
    | '<' :: '?' :: rest => do parts? d entity? fuel (← instruction? d.signs rest)
    | '<' :: '!' :: '-' :: '-' :: rest => do parts? d entity? fuel (← comment? rest)
    | '<' :: '!' :: rest => do
      let (marked, rest) ← Text.breakAt? [']', ']', '>'] (← after? "[CDATA[" rest)
      let (others, rest) ← parts? d entity? fuel rest
      return (text marked others, rest)
    | '<' :: rest => do
      let (tag, inner, rest) ← element? d (parts? d entity? fuel) rest
      let (others, rest) ← parts? d entity? fuel rest
      return (element tag inner others, rest)
    | '&' :: rest => do
      let (reference, rest) ← reference? d.signs rest
      let here ← ofReference? entity? reference
      let (others, rest) ← parts? d entity? fuel rest
      return (here ++ others, rest)
    | t => do
      let isPlain (c : Char) : Bool := c != '<' && c != '&'
      let plain := t.takeWhile isPlain
      if Text.occursIn [']', ']', '>'] plain then none
      else
        let (others, rest) ← parts? d entity? fuel (t.dropWhile isPlain)
        return (text plain others, rest)

/-- The content of an entity, where entities may be used so deep. The signs are no letters in it. -/
def entityWithin? (d : Doctype) : Nat → Text → Option (Content StartTag)
  | 0, _ => none
  | depth + 1, name =>
    match d.entities.lookup name with
    | some (.internal body) =>
      match parts? { d with signs := false } (entityWithin? d depth) (body.length + 1) body with
      | some (content, []) => some content
      | _ => none
    | _ => none

/-- Reads content up to an end tag that opens nothing, or to the end. An entity that is used inside
    itself has no content. -/
def read? (d : Doctype) (t : Text) : Option (Content StartTag × Text) :=
  parts? d (entityWithin? d d.entities.length) (t.length + 1) t

end Content

end CompilationDatabase.Xml
