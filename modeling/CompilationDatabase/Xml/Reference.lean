import CompilationDatabase.Xml.Name

/-!
# References

A reference stands for characters: `&#N;` and `&#xN;` for the one with a code, `&name;` for an entity.
Five entities are known in every document; a document may declare more, whose text is put in the
place of the reference.
-/

namespace CompilationDatabase.Xml

/-- What a reference refers to. -/
inductive Reference
  | char (c : Char)
  | entity (name : Text)
deriving DecidableEq, Repr

/-- The value of a digit in a base of at most sixteen. -/
def digit? (base : Nat) (c : Char) : Option Nat :=
  let value :=
    if c.isDigit then c.toNat - '0'.toNat
    else if 'a' ≤ c ∧ c ≤ 'f' then c.toNat - 'a'.toNat + 10
    else if 'A' ≤ c ∧ c ≤ 'F' then c.toNat - 'A'.toNat + 10
    else 16
  if value < base then some value else none

/-- The character with the code that some digits write, if documents may hold it. -/
def charOfDigits? (base : Nat) (digits : Text) : Option Char := do
  if digits.isEmpty then none
  else
    let values ← digits.mapM (digit? base)
    let code := values.foldl (fun code value => code * base + value) 0
    if code < 0x110000 ∧ ¬(0xD800 ≤ code ∧ code < 0xE000) ∧ isChar (Char.ofNat code) then
      some (Char.ofNat code)
    else none

/-- The reference after an ampersand, and what follows it. -/
def reference? (signs : Bool) : Text → Option (Reference × Text)
  | '#' :: 'x' :: cs => do
    let (digits, rest) ← Text.breakAt? [';'] cs
    return (.char (← charOfDigits? 16 digits), rest)
  | '#' :: cs => do
    let (digits, rest) ← Text.breakAt? [';'] cs
    return (.char (← charOfDigits? 10 digits), rest)
  | cs => do
    let (name, rest) ← label? signs cs
    match rest with
    | ';' :: rest => return (.entity name, rest)
    | _ => none

/-- The entities that every document knows. -/
def knownEntity? (name : Text) : Option Char :=
  match name.toStr with
  | "lt" => some '<'
  | "gt" => some '>'
  | "amp" => some '&'
  | "quot" => some '"'
  | "apos" => some '\''
  | _ => none

end CompilationDatabase.Xml
