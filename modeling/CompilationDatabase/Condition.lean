import CompilationDatabase.Expansion
import CompilationDatabase.Text.Word
import CompilationDatabase.Text.Case.Fold

/-!
# Conditions

A condition compares two texts: `L==R`. The macros of both sides are expanded, blanks at their ends
are cut off, and they hold equal if they are the same text in all letter cases. No other condition
is understood.
-/

namespace CompilationDatabase.Condition

/-- What stands between the two sides. -/
def equals : Text := ['=', '=']

variable {m : Matching}

/-- One side of a comparison in the form that is compared. -/
def side (location : Option Text) (macros : NameTable m) (text : Text) : Except Fault Text := do
  let expanded ← macros.expand location text
  return expanded.strip.fold

/-- Whether a condition holds. -/
def holds (location : Option Text) (macros : NameTable m) (condition : Text) :
    Except Fault Bool :=
  match Text.breakAt? equals condition with
  | none => .error (.failed (.unsupportedCondition condition) location)
  | some (left, right) => do
    let left ← side location macros left
    let right ← side location macros right
    return left == right

/-- Whether a condition that need not be there holds. -/
def holds? (location : Option Text) (macros : NameTable m) : Option Text → Except Fault Bool
  | none => .ok true
  | some condition => holds location macros condition

end CompilationDatabase.Condition
