import CompilationDatabase.Fault
import CompilationDatabase.NameTable
import CompilationDatabase.Template

/-!
# Expansion — tokens replaced by what their names stand for

`expand` replaces each token of a text by the value of its name, and expands every value again where
it is used. The names whose values are being expanded are pending, each inside the one before it; a
name that is met again while it is pending, in any letter case, is a circular reference. The number
of names that may be pending is bounded, so expansion always ends.

`NameTable.expand` expands macros. A table has to allow no more pending names than it has entries.

Whatever is wrong with a text is found at the location that comes with it. The location is handed down
by hand: each function gets it from the one that calls it, and gives it to those that it calls.
-/

namespace CompilationDatabase

variable {μ : Type → Type} [Monad μ] [MonadExceptOf Fault μ] {m : Matching}

/-- The value of a name that is met while others are pending: `expandValue` gets the names that are
    pending inside it, and the value as it is found. -/
def request (location : Option Text) (lookup : Text → μ Text)
    (expandValue : List Text → Text → μ Text) (pending : List Text) (name : Text) : μ Text :=
  let key := name.lower
  if key ∈ pending then
    throw (.failed (.circularReference (pending.dropWhile (· ≠ key) ++ [key])) location)
  else do
    let value ← lookup name
    expandValue (pending ++ [key]) value

/-- Why a token that is never closed cannot be replaced. -/
def Unclosed.cause (marker : Marker) (u : Unclosed) : Cause :=
  if u.isCrossed then .crossedToken (u.text marker) else .unclosedToken (u.text marker)

/-- Fills in a text, from left to right up to a token that is never closed. -/
def Reading.fill (marker : Marker) (location : Option Text) (value : Text → μ Text) (r : Reading) :
    μ Text := do
  let filled ← r.template.fill value
  match r.unclosed with
  | none => return filled
  | some u => throw (.failed (u.cause marker) location)

/-- Expands a text inside the pending names; `depth` further names may be pending. -/
def expandWithin (marker : Marker) (location : Option Text) (lookup : Text → μ Text) :
    (depth : Nat) → (pending : List Text) → Text → μ Text
  | 0, pending, text =>
    (Reading.ofText marker text).fill marker location
      (request location lookup (fun _ _ => throw (.failed .tooDeep location)) pending)
  | depth + 1, pending, text =>
    (Reading.ofText marker text).fill marker location
      (request location lookup (expandWithin marker location lookup depth) pending)

/-- Replaces every token of a text by the expanded value of its name. -/
def expand (marker : Marker) (location : Option Text) (lookup : Text → μ Text) (depth : Nat)
    (text : Text) : μ Text :=
  expandWithin marker location lookup depth [] text

/-- Replaces every token that some characters open. No characters at all stand at the start of every
    text, where they open a token that nothing closes. -/
def expandAfter (opening : Text) (location : Option Text) (lookup : Text → μ Text) (depth : Nat)
    (text : Text) : μ Text :=
  match Marker.ofText? opening with
  | some marker => expand marker location lookup depth text
  | none => throw (.failed (.unclosedToken text) location)

namespace NameTable

/-- The value of a macro, which has to be defined. -/
def macroValue (macros : NameTable m) (location : Option Text) (name : Text) :
    Except Fault Text :=
  match macros.get? name with
  | some value => .ok value
  | none => .error (.failed (.undefinedMacro name) location)

/-- Expands the macros of a text. -/
def expand (macros : NameTable m) (location : Option Text) (text : Text) : Except Fault Text :=
  CompilationDatabase.expand .macros location (macros.macroValue location) macros.size text

/-- The table with every value expanded. -/
def resolved (macros : NameTable m) (location : Option Text) :
    Except Fault (NameTable .ignoringCase) := do
  let entries ← macros.entries.mapM fun e => do
    return { e with value := ← macros.expand location e.value }
  return .ofList entries

end NameTable

end CompilationDatabase
