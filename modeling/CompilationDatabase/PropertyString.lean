import CompilationDatabase.Fault
import CompilationDatabase.NameTable

/-!
# Property strings and the macros to start from

A property string gives values to names: `N1=V1;N2=V2`. Empty entries are passed over, every other
entry has to be a name and a value with one `=` between them.

A build starts from the default macros. The property string of the environment is set over them, and
over that the properties of the command line, in their order.
-/

namespace CompilationDatabase

namespace PropertyString

/-- The name and value of an entry. -/
def entry? (text : Text) : Option Entry :=
  match Text.breakAt? ['='] text with
  | some (name, value) =>
    if name = [] ∨ value = [] ∨ '=' ∈ value then none else some ⟨name, value⟩
  | none => none

/-- The entries of pieces, up to the first that is none. -/
def entries? : List Text → Option (List Entry)
  | [] => some []
  | [] :: rest => entries? rest
  | text :: rest => do
    let entry ← entry? text
    let entries ← entries? rest
    return entry :: entries

/-- Reads a property string. -/
def parse (text : Text) : Except Fault (NameTable .exact) :=
  match entries? (text.pieces ';') with
  | some entries => .ok (.ofList entries)
  | none => .error (.of (.invalidProperties text))

end PropertyString

namespace Macros

/-- The macros that every build starts from. -/
def defaults : NameTable .ignoringCase :=
  .ofList [
    ⟨"Configuration".toList, "Debug".toList⟩,
    ⟨"Platform".toList, "x64".toList⟩,
    ⟨"IntDir".toList, "$(SolutionDir)obj\\$(Platform)_$(Configuration)\\$(ProjectName)\\".toList⟩,
    ⟨"OutDir".toList, "$(SolutionDir)bin\\$(Platform)_$(Configuration)\\".toList⟩]

/-- The environment variable that holds a property string. -/
def environmentName : Text := "VSCCC_PROPERTIES".toList

/-- The properties of the environment: none if its variable is not set or empty. -/
def ofEnvironment : Option Text → Except Fault (NameTable .exact)
  | none | some [] => .ok .empty
  | some text => PropertyString.parse text

/-- The macros to start from: the defaults, then the environment, then further properties. -/
def seed (environment : Option Text) (properties : List (NameTable .exact)) :
    Except Fault (NameTable .ignoringCase) := do
  let fromEnvironment ← ofEnvironment environment
  return properties.foldl (·.update ·) (defaults.update fromEnvironment)

end Macros

end CompilationDatabase
