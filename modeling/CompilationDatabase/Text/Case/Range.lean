import CompilationDatabase.Text.Basic

/-!
# Case ranges — the tables behind the letter cases

The letter cases of Unicode are given as rows: a `CaseRange` sends the characters from `first` to
`last`, in steps of `step`, to the characters from `target` on, in the same order. A `CaseMap` adds
the characters whose image is not one character. ASCII letters are not in the tables: `Char.toLower`
and `Char.toUpper` know them.
-/

namespace CompilationDatabase.Text

/-- A run of characters, evenly spaced, that a letter case moves by the same distance. -/
structure CaseRange where
  /-- The code of the first character. -/
  first : Nat
  /-- The code of the last character. -/
  last : Nat
  /-- The distance between neighbours. -/
  step : Nat
  /-- The code of the first character's image. -/
  target : Nat
deriving Repr

namespace CaseRange

/-- Whether the run holds the character with this code. -/
def holds (r : CaseRange) (code : Nat) : Bool :=
  r.first ≤ code && code ≤ r.last && (code - r.first) % r.step == 0

theorem bounds_of_holds {r : CaseRange} {code : Nat} (h : r.holds code = true) :
    r.first ≤ code ∧ code ≤ r.last := by
  simp only [holds, Bool.and_eq_true, decide_eq_true_eq] at h
  exact h.1

/-- The image of a character by the first run that holds it; other characters stay. -/
def apply (rows : List CaseRange) (c : Char) : Char :=
  match rows.find? (·.holds c.toNat) with
  | some r => Char.ofNat (r.target + (c.toNat - r.first))
  | none => c

end CaseRange

/-- A letter case: the runs it moves, and the characters it writes as several or none. -/
structure CaseMap where
  /-- The ASCII letters. -/
  ascii : Char → Char
  /-- The runs of characters with one character as image. -/
  rows : List CaseRange
  /-- The characters with another number of characters as image. -/
  wide : List (Nat × List Nat)

/-- The image of one character. -/
def CaseMap.image (m : CaseMap) (c : Char) : Text :=
  if c.toNat < 128 then [m.ascii c]
  else match m.wide.lookup c.toNat with
    | some codes => codes.map Char.ofNat
    | none => [CaseRange.apply m.rows c]

/-- Whether a code lies in one of the ranges given by their ends. -/
def inRanges (ranges : List (Nat × Nat)) (code : Nat) : Bool :=
  ranges.any fun (first, last) => first ≤ code && code ≤ last

end CompilationDatabase.Text
