import CompilationDatabase.Text.Basic

/-!
# Templates — text with tokens to be filled in

A token is opened by a `Marker`, such as `$(`, and closed by the parenthesis that belongs to it;
what stands between them is its name, which may hold further tokens. Reading goes in two steps.

* `Marker.symbols` tells openings, closings and other characters apart, from left to right.
* `Reading.ofSymbols` pairs them, from right to left: an opening takes the first closing to its
  right that is still free.

Where no name is being read a closing is an ordinary character. An opening that finds no closing
ends the template; it and what follows it are the `Unclosed` rest.
-/

namespace CompilationDatabase

/-- The characters that open a token: at least one. -/
structure Marker where
  head : Char
  tail : Text
deriving DecidableEq, Repr

namespace Marker

/-- The marker as text. -/
def text (m : Marker) : Text := m.head :: m.tail

/-- The marker with this text; no characters are no marker. -/
def ofText? : Text → Option Marker
  | [] => none
  | c :: cs => some ⟨c, cs⟩

/-- The marker of macros. -/
def macros : Marker := ⟨'$', ['(']⟩

/-- The marker of item metadata. -/
def metadata : Marker := ⟨'%', ['(']⟩

end Marker

/-- The parts of a text that tokens are made of. -/
inductive Symbol
  /-- The marker, which opens a token. -/
  | opening
  /-- The parenthesis that closes a token. -/
  | closing
  /-- Any other character. -/
  | char (c : Char)
deriving DecidableEq, Repr

/-- The symbol as text. -/
def Symbol.text (m : Marker) : Symbol → Text
  | .opening => m.text
  | .closing => [')']
  | .char c => [c]

/-- The symbols of a text, less the first characters: those belong to a marker that was seen
    already. -/
def Marker.symbolsAfter (m : Marker) : Nat → Text → List Symbol
  | _, [] => []
  | skip + 1, _ :: cs => m.symbolsAfter skip cs
  | 0, c :: cs =>
    if c = m.head ∧ m.tail.isPrefixOf cs then .opening :: m.symbolsAfter m.tail.length cs
    else (if c = ')' then .closing else .char c) :: m.symbolsAfter 0 cs

/-- The symbols of a text: a marker is taken wherever one starts. -/
def Marker.symbols (m : Marker) (t : Text) : List Symbol := m.symbolsAfter 0 t

/-- A text in which every token is closed. -/
inductive Template
  /-- Nothing. -/
  | done
  /-- A character and what follows it. -/
  | char (c : Char) (rest : Template)
  /-- A token with its name, and what follows it. -/
  | token (name rest : Template)
deriving DecidableEq, Repr

namespace Template

/-- One template and then another. -/
def append : Template → Template → Template
  | .done, t => t
  | .char c rest, t => .char c (rest.append t)
  | .token name rest, t => .token name (rest.append t)

instance : Append Template := ⟨append⟩

/-- The text of a template. -/
def text (m : Marker) : Template → Text
  | .done => []
  | .char c rest => c :: rest.text m
  | .token name rest => m.text ++ name.text m ++ ')' :: rest.text m

variable {μ : Type → Type} [Monad μ]

/-- Puts in place of every token the value of its name, from left to right: the tokens in a name
    come before the token itself. -/
def fill (value : Text → μ Text) : Template → μ Text
  | .done => pure []
  | .char c rest => do
    let after ← rest.fill value
    return c :: after
  | .token name rest => do
    let name ← name.fill value
    let here ← value name
    let after ← rest.fill value
    return here ++ after

end Template

/-- A token that is opened and never closed. -/
structure Unclosed where
  /-- What follows the opening. -/
  rest : List Symbol
deriving DecidableEq, Repr

/-- The text from the opening on. -/
def Unclosed.text (m : Marker) (u : Unclosed) : Text := m.text ++ u.rest.flatMap (·.text m)

/-- Whether another token is opened after it. -/
def Unclosed.isCrossed (u : Unclosed) : Bool := u.rest.contains .opening

/-- Symbols that are paired: the template before the first closing that is still free, the ones
    after each of those, and the opening that found none. -/
structure Reading where
  first : Template
  later : List Template
  unclosed : Option Unclosed
deriving DecidableEq, Repr

namespace Reading

/-- Pairs openings and closings. -/
def ofSymbols : List Symbol → Reading
  | [] => ⟨.done, [], none⟩
  | .char c :: rest =>
    let r := ofSymbols rest
    { r with first := .char c r.first }
  | .closing :: rest =>
    let r := ofSymbols rest
    ⟨.done, r.first :: r.later, r.unclosed⟩
  | .opening :: rest =>
    let r := ofSymbols rest
    match r.later with
    | [] => ⟨.done, [], some ⟨rest⟩⟩
    | next :: later => ⟨.token r.first next, later, r.unclosed⟩

/-- The reading of a text. -/
def ofText (m : Marker) (t : Text) : Reading := ofSymbols (m.symbols t)

/-- The whole template: closings that no opening took are characters. -/
def template (r : Reading) : Template :=
  r.first ++ r.later.foldr (fun next t => .char ')' (next ++ t)) .done

end Reading

end CompilationDatabase
