import CompilationDatabase.Xml.Doctype.Declaration
import CompilationDatabase.Xml.Encoding
import CompilationDatabase.Xml.Namespace

/-!
# Documents

A document may start with a declaration, which may name its encoding; then come, with comments and
instructions anywhere between them, a document type and the one element that holds everything.
`Document.read` tells that element from the octets of a document.
-/

namespace CompilationDatabase.Xml

open Text (after?)

/-- What a document says of itself. -/
structure Declaration where
  encoding : Option Text := none
  standalone : Bool := false
deriving DecidableEq, Repr

namespace Declaration

/-- Whether a value in the declaration may hold a character. -/
def isPlain (c : Char) : Bool := c.isAlphanum || c == '.' || c == '-' || c == '_'

/-- Reads a named value; white space comes first. -/
def value? (name : String) (t : Text) : Option (Text × Text) := do
  let rest ← after? name (← space? t)
  let rest ← after? "=" (skipSpace rest)
  let (value, rest) ← quoted? (skipSpace rest)
  if value.all isPlain then return (value, rest) else none

/-- Reads a named value that need not be there. -/
def optional (name : String) (t : Text) : Option Text × Text :=
  match value? name t with
  | some (value, rest) => (some value, rest)
  | none => (none, t)

/-- Whether a document stands alone, from the word that says so. -/
def standalone? (word : Option Text) : Option Bool :=
  match word.map Text.toStr with
  | none | some "no" => some false
  | some "yes" => some true
  | some _ => none

/-- Whether a text may be the name of an encoding: a letter comes first. -/
def isEncodingName (name : Text) : Bool := name.head?.any Char.isAlpha

/-- The declaration between its brackets. -/
def ofText? (t : Text) : Option Declaration := do
  let (_, rest) ← value? "version" t
  let (encoding, rest) := optional "encoding" rest
  let (word, rest) := optional "standalone" rest
  let standalone ← standalone? word
  if skipSpace rest = [] ∧ encoding.all isEncodingName then return { encoding, standalone }
  else none

/-- Whether a text starts with a declaration, and not with an instruction. -/
def starts (t : Text) : Bool :=
  match after? "<?xml" t with
  | some (c :: _) => isSpace c || c == '?'
  | _ => false

/-- The declaration at the start of a text, which need not have one. -/
def read? (t : Text) : Option Declaration :=
  if starts t then do
    let (inside, _) ← Text.breakAt? ['?', '>'] (t.drop "<?xml".length)
    ofText? inside
  else some {}

/-- What follows the declaration. -/
def skip (t : Text) : Text :=
  if starts t then ((Text.breakAt? ['?', '>'] t).map (·.2)).getD [] else t

end Declaration

namespace Document

/-- What follows white space, comments and instructions; there are at most so many. -/
def skipMisc? (signs : Bool) : Nat → Text → Option Text
  | 0, _ => none
  | fuel + 1, t =>
    match skipSpace t with
    | '<' :: '?' :: rest => do skipMisc? signs fuel (← instruction? signs rest)
    | '<' :: '!' :: '-' :: '-' :: rest => do skipMisc? signs fuel (← comment? rest)
    | rest => some rest

/-- Reads the document type, which need not be there, up to the first element. -/
def doctype? (signs standalone : Bool) (t : Text) : Option (Doctype × Text) := do
  let rest ← skipMisc? signs (t.length + 1) t
  match after? "<!DOCTYPE" rest with
  | some rest =>
    let (d, rest) ← Doctype.read? signs standalone rest
    return (d, ← skipMisc? signs (rest.length + 1) rest)
  | none => return ({ signs }, rest)

/-- The element that a text after the declaration holds. -/
def ofText? (signs standalone : Bool) (t : Text) : Option Element := do
  let (d, rest) ← doctype? signs standalone t
  let (tag, inner, rest) ← element? d (Content.read? d) (← after? "<" rest)
  if (← skipMisc? signs (rest.length + 1) rest) = [] then
    match ← (Content.element tag inner .done).labelled? .initial with
    | .element tag inner _ => return ⟨tag, inner⟩
    | _ => none
  else none

/-- The element that a document holds. -/
def read (octets : List UInt8) : Except Flaw Element := do
  let (detected, octets) := Encoding.detect octets
  match Declaration.read? (detected.asciiStart octets) with
  | none => throw .malformed
  | some declaration =>
    let encoding ← detected.choose declaration.encoding
    let text := (encoding.decode octets).map plainLines
    match text with
    | none => throw .malformed
    | some text =>
      match ofText? encoding.hasSigns declaration.standalone (Declaration.skip text) with
      | some element => if text.all isChar then return element else throw .malformed
      | none => throw .malformed

end Document

end CompilationDatabase.Xml
