import CompilationDatabase.Text.Utf8
import CompilationDatabase.Xml.CodePage.Names
import CompilationDatabase.Xml.CodePage.Standard
import CompilationDatabase.Xml.CodePage.Terminal
import CompilationDatabase.Xml.CodePage.Windowed

/-!
# Encodings of documents

A document is read in three steps: its first octets tell whether it is written in octets or in pairs
of octets (`Encoding.detect`), its declaration may then name the encoding (`Encoding.choose`), and
the octets are read in that encoding (`Encoding.decode`).
-/

namespace CompilationDatabase.Xml

/-- Why a document cannot be read. -/
inductive Flaw
  /-- It is not well-formed. -/
  | malformed
  /-- It names an encoding that is not known. -/
  | unknownEncoding (name : Text)
  /-- It names something that is known and writes no characters. -/
  | noEncoding (name : Text)
  /-- It names an encoding that writes characters in several octets and cannot be read. -/
  | wideEncoding
  /-- It names an encoding that refuses single octets, in these words. -/
  | refusingEncoding (words : Text)
deriving DecidableEq, Repr

/-- How characters are written in octets. -/
inductive Encoding
  | utf8
  /-- In pairs of octets, or two pairs; the higher octet comes first or second. -/
  | utf16 (highFirst : Bool)
  /-- One octet for each of the first 256 characters; whether the signs among them are letters
      depends on the name by which the encoding goes. -/
  | latin1 (signs : Bool)
  | ascii
  | page (p : CodePage)
deriving DecidableEq, Repr

namespace Encoding

/-- Whether characters are written in pairs of octets. -/
def inPairs : Encoding → Bool
  | utf16 _ => true
  | _ => false

/-- Whether the signs `ª`, `µ` and `º` are letters in documents. -/
def hasSigns : Encoding → Bool
  | utf16 _ => true
  | latin1 signs => signs
  | _ => false

/-- What the first octets tell: the encoding to read the declaration in, and the octets after a byte
    order mark. -/
def detect : List UInt8 → Encoding × List UInt8
  | 0xFE :: 0xFF :: rest => (utf16 true, rest)
  | 0xFF :: 0xFE :: rest => (utf16 false, rest)
  | 0xEF :: 0xBB :: 0xBF :: rest => (utf8, rest)
  | 0 :: b :: rest => (utf16 true, 0 :: b :: rest)
  | a :: 0 :: rest => (utf16 false, a :: 0 :: rest)
  | octets => (utf8, octets)

/-- The code pages. -/
def pages : List CodePage :=
  CodePage.windowed ++ CodePage.standard ++ CodePage.terminal ++ CodePage.further

/-- What is known of an encoding that goes by some name. -/
inductive Known
  /-- One in which octets below 0x80 are ASCII. -/
  | octets (encoding : Encoding)
  /-- One in which they are not. -/
  | moved
  /-- One that writes characters in several octets. -/
  | wide
  /-- One that refuses single octets. -/
  | refusing
  /-- One that writes no characters. -/
  | transform
deriving DecidableEq, Repr

/-- What is known of the encoding with a name, which has the form in which names are compared. -/
def known? (spelling : Text) : Option Known :=
  let among (all : List EncodingNames) : Bool := all.any (·.has spelling)
  if among CodePage.asciiNames then some (.octets ascii)
  else if among CodePage.latin1Names then some (.octets (latin1 false))
  else if among CodePage.movedNames then some .moved
  else if among CodePage.wideNames then some .wide
  else if among CodePage.refusingNames then some .refusing
  else if among CodePage.transformNames then some .transform
  else (pages.find? (·.names.has spelling)).map fun p => .octets (page p)

/-- The encoding to read a document in, from the one that was detected and the one that is
    declared. A declaration cannot change octets to pairs, nor the order in pairs. -/
def choose (detected : Encoding) : Option Text → Except Flaw Encoding
  | none => .ok detected
  | some name =>
    let octets (e : Encoding) : Except Flaw Encoding :=
      if detected.inPairs then .error .malformed else .ok e
    let pairs (fits : Bool) : Except Flaw Encoding :=
      if fits then .ok detected else .error .malformed
    match Text.toStr (name.map Char.toUpper) with
    | "UTF-8" => octets utf8
    | "UTF-16" => pairs detected.inPairs
    | "UTF-16BE" => pairs (detected = utf16 true)
    | "UTF-16LE" => pairs (detected = utf16 false)
    | "ISO-8859-1" => octets (latin1 true)
    | "US-ASCII" => octets ascii
    | _ =>
      let spelling := EncodingNames.spelling name
      match known? spelling with
      | some (.octets e) => octets e
      | some .moved => .error .malformed
      | some .wide => .error .wideEncoding
      | some .refusing => .error (.refusingEncoding (CodePage.refusal spelling name))
      | some .transform => .error (.noEncoding name)
      | none => .error (.unknownEncoding name)

/-- The pairs of octets as numbers; an octet may not be left over. -/
def units? (highFirst : Bool) : List UInt8 → Option (List Nat)
  | [] => some []
  | [_] => none
  | a :: b :: rest =>
    let unit := if highFirst then a.toNat * 256 + b.toNat else b.toNat * 256 + a.toNat
    (unit :: ·) <$> units? highFirst rest

/-- The characters of 16-bit units. The first half of a pair takes the unit after it for the second
    half, of which ten bits count; a second half cannot stand alone. -/
def ofUnits? : List Nat → Option Text
  | [] => some []
  | unit :: rest =>
    if unit < 0xD800 || 0xE000 ≤ unit then (Char.ofNat unit :: ·) <$> ofUnits? rest
    else if unit < 0xDC00 then
      match rest with
      | second :: rest =>
        (Char.ofNat (0x10000 + (unit - 0xD800) * 0x400 + second % 0x400) :: ·) <$> ofUnits? rest
      | [] => none
    else none

/-- The text that octets stand for. -/
def decode (octets : List UInt8) : Encoding → Option Text
  | utf8 => (Text.Utf8.decode octets).toOption
  | utf16 highFirst => units? highFirst octets >>= ofUnits?
  | latin1 _ => some (octets.map fun b => Char.ofNat b.toNat)
  | ascii => octets.mapM fun b => if b < 0x80 then some (Char.ofNat b.toNat) else none
  | page p => octets.mapM p.char?

/-- The start of the text that octets stand for, as far as it is ASCII. -/
def asciiStart (octets : List UInt8) : Encoding → Text
  | utf16 highFirst => go highFirst octets
  | _ => (octets.takeWhile (· < 0x80)).map fun b => Char.ofNat b.toNat
where
  /-- The start of the text that pairs of octets stand for, as far as it is ASCII. -/
  go (highFirst : Bool) : List UInt8 → Text
    | a :: b :: rest =>
      let (high, low) := if highFirst then (a, b) else (b, a)
      if high = 0 && low < 0x80 then Char.ofNat low.toNat :: go highFirst rest else []
    | _ => []

end Encoding

end CompilationDatabase.Xml
