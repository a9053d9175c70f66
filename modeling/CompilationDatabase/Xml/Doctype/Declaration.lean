import CompilationDatabase.Xml.Doctype.Basic
import CompilationDatabase.Xml.Name

/-!
# Document type declarations

What a declaration says elsewhere, in another file, is not read: then an entity may be unknown
without being wrong in a value, and declarations after the first reference to another file do not
count, unless the document says that it stands alone. `Doctype.read?` reads the whole declaration.
-/

namespace CompilationDatabase.Xml.Doctype

open Text (after?)

/-- Whether a public name may hold a character. -/
def isPublic (c : Char) : Bool :=
  c.isAlphanum || c ∈ " \r\n-'()+,./:=?;!*#@$_%".toList

/-- What follows the name of another file: its system name, or a public name and perhaps a system
    name. -/
def external? (needsSystem : Bool) (t : Text) : Option Text :=
  match after? "SYSTEM" t with
  | some rest => do return (← quoted? (← space? rest)).2
  | none => do
    let (name, rest) ← quoted? (← space? (← after? "PUBLIC" t))
    if name.all isPublic then
      match space? rest >>= quoted? with
      | some (_, rest) => return rest
      | none => if needsSystem then none else return rest
    else none

/-- The text of an entity: references to characters are replaced, others stay. -/
def entityText? (signs : Bool) (t : Text) : Option Text :=
  if '%' ∈ t then none
  else match t.pieces '&' with
    | [] => some []
    | first :: others => do
      let others ← others.mapM fun piece => do
        let (reference, rest) ← reference? signs piece
        match reference with
        | .char c => return c :: rest
        | .entity name => return '&' :: name ++ ';' :: rest
      return first ++ others.flatten

/-- Closes a declaration. -/
def closed? (t : Text) : Option Text := after? ">" (skipSpace t)

/-- Reads an entity declaration. Entities for use in declarations are read and not kept; of an
    entity that does not count the text is not looked at. -/
def entity? (d : Doctype) (keep : Bool) (t : Text) : Option (Doctype × Text) := do
  let rest ← space? t
  let (forDeclarations, rest) ← match after? "%" rest with
    | some rest => do pure (true, ← space? rest)
    | none => pure (false, rest)
  let (name, rest) ← label? d.signs rest
  let rest ← space? rest
  let (entity, rest) ← match quoted? rest with
    | some (text, rest) => do
      let text ← if keep then entityText? d.signs text else some text
      pure (Entity.internal text, rest)
    | none => do
      let rest ← external? true rest
      match space? rest >>= after? "NDATA" with
      | some rest => do
        let (_, rest) ← label? d.signs (← space? rest)
        if forDeclarations then none else pure (.external, rest)
      | none => pure (.external, rest)
  let rest ← closed? rest
  return (if keep ∧ ¬forDeclarations then d.addEntity name entity else d, rest)

/-- What follows words in parentheses, with bars between them; there are at most so many. -/
def choices? (word? : Text → Option (Text × Text)) : Nat → Text → Option Text
  | 0, _ => none
  | fuel + 1, t => do
    let (_, rest) ← word? (skipSpace t)
    match skipSpace rest with
    | '|' :: rest => choices? word? fuel rest
    | ')' :: rest => return rest
    | _ => none

/-- What follows the type of an attribute, and whether it is any text. -/
def attributeType? (signs : Bool) (t : Text) : Option (Bool × Text) :=
  match t with
  | '(' :: rest => do return (false, ← choices? (word? signs) rest.length rest)
  | _ => do
    let (word, rest) ← label? signs t
    match word.toStr with
    | "CDATA" => return (true, rest)
    | "ID" | "IDREF" | "IDREFS" | "ENTITY" | "ENTITIES" | "NMTOKEN" | "NMTOKENS" =>
      return (false, rest)
    | "NOTATION" =>
      let rest ← after? "(" (← space? rest)
      return (false, ← choices? (label? signs) rest.length rest)
    | _ => none

/-- The value that an attribute has where none is written, and what follows it; a value that does not
    count is not looked at. -/
def attributeDefault? (d : Doctype) (isText keep : Bool) (t : Text) :
    Option (Option Text × Text) :=
  let value (t : Text) : Option (Option Text × Text) := do
    let (text, rest) ← quoted? t
    if keep then
      let value ← d.value? text
      return (some (if isText then value else words value), rest)
    else return (none, rest)
  match t with
  | '#' :: t => do
    let (word, rest) ← label? d.signs t
    match word.toStr with
    | "REQUIRED" | "IMPLIED" => return (none, rest)
    | "FIXED" => value (← space? rest)
    | _ => none
  | _ => value t

/-- Reads the rules of an attribute declaration; there are at most so many. -/
def rules? (element : Name) (keep : Bool) : Nat → Doctype → Text → Option (Doctype × Text)
  | 0, _, _ => none
  | fuel + 1, d, t =>
    match closed? t with
    | some rest => some (d, rest)
    | none => do
      let (name, rest) ← declaredName? d.signs (← space? t)
      let (isText, rest) ← attributeType? d.signs (← space? rest)
      let (value, rest) ← d.attributeDefault? isText keep (← space? rest)
      let rule : AttributeRule := { element, name, isText, value }
      rules? element keep fuel (if keep then d.addRule rule else d) rest

/-- What follows a sign that tells how often something may occur, if there is one. -/
def skipCount : Text → Text
  | '?' :: rest | '*' :: rest | '+' :: rest => rest
  | rest => rest

/-- What follows a group of elements. The groups that are open have commas between their parts, or
    bars, or nothing as yet; either a part comes next or what follows one. There are at most so many
    steps. -/
def group? (signs : Bool) : Nat → (opened : List (Option Char)) → (wantsPart : Bool) → Text →
    Option Text
  | 0, _, _, _ => none
  | fuel + 1, opened, true, t =>
    match skipSpace t with
    | '(' :: rest => group? signs fuel (none :: opened) true rest
    | t => do
      let (_, rest) ← declaredName? signs t
      group? signs fuel opened false (skipCount rest)
  | fuel + 1, opened, false, t =>
    match skipSpace t, opened with
    | ')' :: rest, [_] => some (skipCount rest)
    | ')' :: rest, _ :: outer => group? signs fuel outer false (skipCount rest)
    | c :: rest, between :: outer =>
      if (c = ',' ∨ c = '|') ∧ between.all (· = c) then
        group? signs fuel (some c :: outer) true rest
      else none
    | _, _ => none

/-- What follows elements that may stand among text. -/
def mixed? (signs : Bool) (t : Text) : Option Text :=
  match skipSpace t with
  | ')' :: rest => some ((after? "*" rest).getD rest)
  | '|' :: rest => do after? "*" (← choices? (declaredLabel? signs) rest.length rest)
  | _ => none
where
  /-- A name in a declaration as a word. -/
  declaredLabel? (signs : Bool) (t : Text) : Option (Text × Text) :=
    (declaredName? signs t).map fun (name, rest) => (name.label, rest)

/-- What follows the declaration of an element: its name, and then what it may consist of. -/
def element? (signs : Bool) (t : Text) : Option Text := do
  let (_, rest) ← declaredName? signs (← space? t)
  match ← space? rest with
  | '(' :: rest =>
    match after? "#PCDATA" (skipSpace rest) with
    | some rest => closed? (← mixed? signs rest)
    | none => closed? (← group? signs (rest.length + 1) [none] true rest)
  | rest =>
    let (word, rest) ← label? signs rest
    match word.toStr with
    | "EMPTY" | "ANY" => closed? rest
    | _ => none

/-- What follows the declaration of a notation. -/
def notation? (signs : Bool) (t : Text) : Option Text := do
  let (_, rest) ← label? signs (← space? t)
  closed? (← external? false (← space? rest))

/-- Reads declarations up to the closing bracket; there are at most so many. -/
def declarations? (standalone : Bool) : Nat → (keep : Bool) → Doctype → Text →
    Option (Doctype × Text)
  | 0, _, _, _ => none
  | fuel + 1, keep, d, t =>
    let t := skipSpace t
    match t with
    | ']' :: rest => some (d, rest)
    | '%' :: rest => do
      let (_, rest) ← label? d.signs rest
      declarations? standalone fuel standalone { d with isPartial := !standalone }
        (← after? ";" rest)
    | '<' :: '?' :: rest => do declarations? standalone fuel keep d (← instruction? d.signs rest)
    | '<' :: '!' :: '-' :: '-' :: rest => do
      declarations? standalone fuel keep d (← comment? rest)
    | _ =>
      match after? "<!ENTITY" t with
      | some rest => do
        let (d, rest) ← d.entity? keep rest
        declarations? standalone fuel keep d rest
      | none =>
        match after? "<!ATTLIST" t with
        | some rest => do
          let (element, rest) ← declaredName? d.signs (← space? rest)
          let (d, rest) ← rules? element keep rest.length d rest
          declarations? standalone fuel keep d rest
        | none =>
          match after? "<!ELEMENT" t with
          | some rest => do declarations? standalone fuel keep d (← element? d.signs rest)
          | none => do
            let rest ← after? "<!NOTATION" t
            declarations? standalone fuel keep d (← notation? d.signs rest)

/-- Reads a document type declaration after its keyword. -/
def read? (signs standalone : Bool) (t : Text) : Option (Doctype × Text) := do
  let (_, rest) ← declaredName? signs (← space? t)
  let (isPartial, rest) := match space? rest >>= external? true with
    | some rest => (!standalone, rest)
    | none => (false, rest)
  let d : Doctype := { signs, isPartial }
  match skipSpace rest with
  | '[' :: rest => do
    let (d, rest) ← declarations? standalone rest.length true d rest
    return (d, ← closed? rest)
  | rest => return (d, ← closed? rest)

end CompilationDatabase.Xml.Doctype
