import CompilationDatabase.Text.Printable

/-!
# Literals — texts in the quotes of others

A text in a message that must not run into the words around it is shown as a literal: in single
quotes, or in double ones if it holds a single quote and no double one. Backslashes and the chosen
quote are escaped, and every character that is not printable is written by its code.

`Json.string` writes a text as a JSON string in ASCII: a character beyond ASCII is written by its
code in UTF-16, so one beyond the first 65536 takes two escapes.

`ShellWord.quote` writes a text so that a shell reads it as one word with exactly its characters: as
it is if it is made of plain characters alone, otherwise in single quotes, where a single quote
itself stands in double quotes between two quoted parts.
-/

namespace CompilationDatabase.Text

/-- The quote that a literal of the text is put in. -/
def literalQuote (t : Text) : Char :=
  if t.contains '\'' && !t.contains '"' then '"' else '\''

/-- The code of a character that is not printable, in two, four or eight hexadecimal digits. -/
def codeEscape (c : Char) : Text :=
  let code := c.toNat
  if code < 0x100 then '\\' :: 'x' :: padded 16 2 code
  else if code < 0x10000 then '\\' :: 'u' :: padded 16 4 code
  else '\\' :: 'U' :: padded 16 8 code

/-- One character inside a literal. -/
def literalChar (quote c : Char) : Text :=
  if c = quote ∨ c = '\\' then ['\\', c]
  else if c = '\n' then ['\\', 'n']
  else if c = '\r' then ['\\', 'r']
  else if c = '\t' then ['\\', 't']
  else if isPrintable c then [c]
  else codeEscape c

/-- The text as a literal. -/
def literal (t : Text) : Text :=
  let quote := literalQuote t
  quote :: (t.flatMap (literalChar quote) ++ [quote])

/-! ## JSON strings -/

namespace Json

/-- The escape of a 16-bit unit. -/
def unit (code : Nat) : Text := '\\' :: 'u' :: padded 16 4 code

/-- One character inside a string. -/
def char (c : Char) : Text :=
  if c = '"' ∨ c = '\\' then ['\\', c]
  else if c = '\n' then ['\\', 'n']
  else if c = '\r' then ['\\', 'r']
  else if c = '\t' then ['\\', 't']
  else if c = '\x08' then ['\\', 'b']
  else if c = '\x0c' then ['\\', 'f']
  else if ' ' ≤ c ∧ c ≤ '~' then [c]
  else if c.toNat < 0x10000 then unit c.toNat
  else
    let high := c.toNat - 0x10000
    unit (0xD800 + high / 0x400) ++ unit (0xDC00 + high % 0x400)

/-- The text as a string. -/
def string (t : Text) : Text := '"' :: (t.flatMap char ++ ['"'])

end Json

/-! ## Shell words -/

namespace ShellWord

/-- Whether a character means itself to a shell wherever it stands in a word. -/
def isPlain (c : Char) : Bool :=
  c.isAlphanum || "_@%+=:,./-".toList.contains c

/-- One character between single quotes. -/
def quoteChar (c : Char) : Text :=
  if c = '\'' then "'\"'\"'".toList else [c]

/-- The text as one word. -/
def quote (t : Text) : Text :=
  if !t.isEmpty && t.all isPlain then t
  else '\'' :: (t.flatMap quoteChar ++ ['\''])

/-- A command line: the quoted words, with blanks between them. -/
def line (words : List Text) : Text := join ' ' (words.map quote)

end ShellWord

end CompilationDatabase.Text
