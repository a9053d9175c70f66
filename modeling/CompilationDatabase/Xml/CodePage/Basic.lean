import CompilationDatabase.Text.Basic

/-!
# Code pages

A code page writes a character in one octet. On the pages here the octets below 0x80 are the
characters of ASCII; for the others a page lists what tells it from the first 256 characters.

Encodings go by many names. `EncodingNames.spelling` is the form in which names are compared, and
all names that are listed are written in it.
-/

namespace CompilationDatabase.Xml

/-- The names of an encoding. -/
structure EncodingNames where
  /-- The name that it has of its own. -/
  name : String
  aliases : List String
deriving DecidableEq, Repr

namespace EncodingNames

/-- A name in the form in which names are compared: in lower case, with one underscore for the
    hyphens and underscores between two parts, and none at the ends. -/
def spelling (name : Text) : Text :=
  let lower : Text := name.map Char.toLower
  Text.join '_' (((lower.replace '-' '_').pieces '_').filter (· ≠ []))

/-- Whether a spelling is among the names. An alias may be spelled with dots for its underscores. -/
def has (names : EncodingNames) (spelling : Text) : Bool :=
  names.name.toList = spelling ||
    names.aliases.any fun a => a.toList = spelling || a.toList = spelling.replace '.' '_'

end EncodingNames

/-- A code page. -/
structure CodePage where
  names : EncodingNames
  /-- Where the page differs from the first 256 characters: an octet, with the characters from there
      on. U+FFFD stands where there is no character. -/
  runs : List (Nat × String)
deriving DecidableEq, Repr

namespace CodePage

/-- The character that a page lists for an octet. -/
def listed? (p : CodePage) (octet : Nat) : Option Char :=
  p.runs.findSome? fun (start, chars) =>
    if start ≤ octet then chars.toList[octet - start]? else none

/-- The character of an octet, if there is one. -/
def char? (p : CodePage) (octet : UInt8) : Option Char :=
  if octet < 0x80 then some (Char.ofNat octet.toNat)
  else match p.listed? octet.toNat with
    | some '\uFFFD' => none
    | some c => some c
    | none => some (Char.ofNat octet.toNat)

end CodePage

end CompilationDatabase.Xml
