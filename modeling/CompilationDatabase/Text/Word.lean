import CompilationDatabase.Text.Basic

/-!
# Blanks, lines and words

White space is that of Unicode together with the four separators of ASCII: it ends words, and it is
cut off at both ends by `strip`. A zero-width space and a byte order mark are not blanks.

A text is cut into lines at line feeds, carriage returns (one followed by a line feed counts once),
vertical tabs, form feeds, the file, group and record separators, the next-line character and the
line and paragraph separators. The last line may lack its end; a text that ends with one has no
empty line after it.

A word of an option line ends at a blank; one that starts with a double quote ends at the next double quote, or at
the end of the line if there is none, and the quotes do not belong to it.

A position below zero counts from the end of the line. What is read from there on goes around: the
line follows once more, from its start.
-/

namespace CompilationDatabase.Text

/-- Whether a character is white space. -/
def isBlank (c : Char) : Bool :=
  let code := c.toNat
  (9 ≤ code && code ≤ 13) || (28 ≤ code && code ≤ 32) || code == 0x85 || code == 0xA0
    || code == 0x1680 || (0x2000 ≤ code && code ≤ 0x200A) || code == 0x2028 || code == 0x2029
    || code == 0x202F || code == 0x205F || code == 0x3000

/-- The text without the blanks at its two ends. -/
def strip (t : Text) : Text := dropEndWhile isBlank (t.dropWhile isBlank)

/-! ## Lines -/

/-- Whether a character ends a line. -/
def endsLine (c : Char) : Bool :=
  let code := c.toNat
  (10 ≤ code && code ≤ 13) || (28 ≤ code && code ≤ 30) || code == 0x85 || code == 0x2028
    || code == 0x2029

/-- A character put in front of the first of some lines, or on a line of its own. -/
def consLine (c : Char) : List Text → List Text
  | [] => [[c]]
  | line :: rest => (c :: line) :: rest

/-- The lines of a text, without their ends. -/
def lines : Text → List Text
  | [] => []
  | '\r' :: '\n' :: cs => [] :: lines cs
  | c :: cs => if endsLine c then [] :: lines cs else consLine c (lines cs)

/-! ## Words of an option line -/

/-- The word that a text without blanks in front starts with, and what follows it. -/
def wordAtStart : Text → Text × Text
  | '"' :: cs => (breakAt? ['"'] cs).getD (cs, [])
  | cs => (cs.takeWhile (!isBlank ·), cs.dropWhile (!isBlank ·))

/-- The next word of a text, and what follows it. -/
def nextWord (t : Text) : Text × Text := wordAtStart (t.dropWhile isBlank)

/-- The next word among the last characters of a text, and the position after it: below zero where
    the word ends before the text does. A word that reaches the end goes on at the start, so a
    quote that ends the text is the opening one of the whole text; without quotes, only the
    characters between the two positions are left of it. -/
def nextWordAmongLast (t : Text) (count : Nat) : Text × Int :=
  match (t.drop (t.length - count)).dropWhile isBlank with
  | [] =>
    let (word, rest) := nextWord t
    (word, t.length - rest.length)
  | '"' :: cs =>
    let quoted := if cs = [] then t else cs
    let (word, rest) := (breakAt? ['"'] quoted).getD (quoted, [])
    (word, t.length - rest.length)
  | last =>
    match last.dropWhile (!isBlank ·) with
    | [] =>
      let first := t.takeWhile (!isBlank ·)
      (first.drop (t.length - last.length), first.length)
    | rest => (last.takeWhile (!isBlank ·), -rest.length)

/-- A position that lies before the start of a text. -/
structure BeforeStart where
  position : Int
deriving DecidableEq, Repr

/-- The words for such a position. -/
def BeforeStart.message (_ : BeforeStart) : Text := "string index out of range".toList

/-- The next word from a position on, and the position after it. -/
def nextWordAt (t : Text) : (position : Int) → Except BeforeStart (Text × Int)
  | .ofNat position =>
    if t.length ≤ position then .ok ([], position)
    else
      let (word, rest) := nextWord (t.drop position)
      .ok (word, t.length - rest.length)
  | .negSucc n =>
    if t.length ≤ n then .error ⟨.negSucc n⟩ else .ok (t.nextWordAmongLast (n + 1))

theorem length_nextWord_le (t : Text) : (nextWord t).2.length ≤ t.length := by
  have hd : (t.dropWhile isBlank).length ≤ t.length := (List.dropWhile_sublist _).length_le
  unfold nextWord
  generalize t.dropWhile isBlank = s at *
  unfold wordAtStart
  split
  · next cs =>
    cases h : breakAt? ['"'] cs with
    | none => simp
    | some p =>
      have := congrArg List.length (eq_of_breakAt? h)
      simp only [List.length_append, List.length_cons, List.length_nil] at this hd
      simp only [Option.getD_some]
      omega
  · exact Nat.le_trans (List.dropWhile_sublist _).length_le hd

end CompilationDatabase.Text
