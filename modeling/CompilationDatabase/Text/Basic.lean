/-!
# Text — characters in a row, and the cuts made in them

Every name, value and path of a build is a `Text`: its list of characters, so that whatever reads
or writes one is a recursion on it.

* `breakAt?` cuts a text at the first occurrence of a separator.
* `pieces` cuts at every occurrence of a character, and `List.intercalate` joins again.
* `replace` exchanges one character for another.
-/

namespace CompilationDatabase

/-- A text is the list of its characters. -/
abbrev Text := List Char

instance : LawfulBEq Text := inferInstanceAs (LawfulBEq (List Char))

/-- A string is a text by its characters. -/
instance : Coe String Text := ⟨String.toList⟩

namespace Text

/-- The text as a string, for people to read. -/
def toStr (t : Text) : String := String.ofList t

/-- The parts before and after the first occurrence of a separator, if there is one. -/
def breakAt? (separator : Text) : Text → Option (Text × Text)
  | [] => if separator.isEmpty then some ([], []) else none
  | c :: cs =>
    match separator.isPrefixOf? (c :: cs) with
    | some rest => some ([], rest)
    | none => (breakAt? separator cs).map fun (before, after) => (c :: before, after)

/-- What follows a word at the start of a text. -/
def after? (word : String) (t : Text) : Option Text := word.toList.isPrefixOf? t

/-- The pieces between the occurrences of a separating character: one more than there are
    occurrences. -/
def pieces (separator : Char) : Text → List Text
  | [] => [[]]
  | c :: cs =>
    if c = separator then [] :: pieces separator cs
    else match pieces separator cs with
      | [] => [[c]]
      | piece :: rest => (c :: piece) :: rest

/-- Pieces put together again, with the separating character between neighbours. -/
def join (separator : Char) (parts : List Text) : Text := List.intercalate [separator] parts

/-- One character written in place of another. -/
def replace (old new : Char) (t : Text) : Text := t.map fun c => if c = old then new else c

/-- Whether a text occurs somewhere in another. -/
def occursIn (part t : Text) : Bool := (breakAt? part t).isSome

/-- The part up to and including the last occurrence of a character, and the part after it: nothing
    comes first if the character does not occur. -/
def splitLast (c : Char) (t : Text) : Text × Text :=
  let after := (t.reverse.takeWhile (· ≠ c)).reverse
  (t.take (t.length - after.length), after)

/-- A text without the characters at its end that satisfy the test. -/
def dropEndWhile (p : Char → Bool) (t : Text) : Text := (t.reverse.dropWhile p).reverse

/-- A natural number in decimal digits. -/
def ofNat (n : Nat) : Text := Nat.toDigits 10 n

/-- An integer in decimal digits, with a sign if it is below zero. -/
def ofInt : Int → Text
  | .ofNat n => ofNat n
  | .negSucc n => '-' :: ofNat (n + 1)

/-- A natural number in a number base, with zeros in front up to a width. -/
def padded (base width n : Nat) : Text :=
  let digits := Nat.toDigits base n
  List.replicate (width - digits.length) '0' ++ digits

/-- What is found under a key stands in the list under it. -/
theorem mem_of_lookup {α β : Type} [BEq α] [LawfulBEq α] {entries : List (α × β)} {key : α} {value : β}
    (h : entries.lookup key = some value) : (key, value) ∈ entries := by
  obtain ⟨before, after, rfl, -⟩ := List.lookup_eq_some_iff.mp h
  exact List.mem_append_right _ List.mem_cons_self

theorem isPrefixOf?_eq_some {start t rest : Text} :
    start.isPrefixOf? t = some rest ↔ t = start ++ rest := by
  induction start generalizing t with
  | nil => exact Option.some_inj
  | cons c cs ih =>
    cases t with
    | nil =>
      show none = some rest ↔ [] = c :: cs ++ rest
      simp
    | cons d ds =>
      show (if c == d then cs.isPrefixOf? ds else none) = some rest ↔ d :: ds = c :: cs ++ rest
      by_cases h : c = d
      · rw [if_pos (beq_iff_eq.2 h), ih]
        simp [h]
      · rw [if_neg (mt beq_iff_eq.1 h)]
        simp [Ne.symm h]

/-- A text is put together again from the parts around a separator. -/
theorem eq_of_breakAt? {separator t before after : Text}
    (h : breakAt? separator t = some (before, after)) : t = before ++ separator ++ after := by
  induction t generalizing before with
  | nil =>
    rw [breakAt?] at h
    split at h
    · next hs =>
      simp only [Option.some.injEq, Prod.mk.injEq] at h
      simp [← h.1, ← h.2, List.isEmpty_iff.1 hs]
    · simp at h
  | cons c cs ih =>
    rw [breakAt?] at h
    split at h
    · next rest hr =>
      simp only [Option.some.injEq, Prod.mk.injEq] at h
      obtain ⟨rfl, rfl⟩ := h
      simpa using isPrefixOf?_eq_some.1 hr
    · simp only [Option.map_eq_some_iff, Prod.mk.injEq] at h
      obtain ⟨⟨b, a⟩, hba, rfl, rfl⟩ := h
      simp [ih hba]

theorem replace_append (old new : Char) (a b : Text) :
    replace old new (a ++ b) = replace old new a ++ replace old new b := by
  simp [replace]

theorem pieces_ne_nil (c : Char) (t : Text) : pieces c t ≠ [] := by
  cases t with
  | nil => simp [pieces]
  | cons d ds =>
    rw [pieces]
    split
    · simp
    · split <;> simp

end Text

end CompilationDatabase
