import CompilationDatabase.Fault

/-!
# Notices — what a run tells while it goes on

A `Notice` is something that was done or passed over, or the fault that ended a run. Each has a
`Severity`, the part of the program that speaks (`Notice.speaker`), and its words. Which notices are
shown, and whether the speaker is named, is decided where they are written out (`Notice.line`).
-/

namespace CompilationDatabase

/-- How much a notice matters. -/
inductive Severity
  | debug
  | info
  | warning
  | error
deriving DecidableEq, Repr

/-- The rank of a severity among all. -/
def Severity.rank : Severity → Nat
  | .debug => 0
  | .info => 1
  | .warning => 2
  | .error => 3

/-- The name of a severity. -/
def Severity.name : Severity → Text
  | .debug => "DEBUG".toList
  | .info => "INFO".toList
  | .warning => "WARNING".toList
  | .error => "ERROR".toList

/-- What a run tells. -/
inductive Notice
  /-- An element is passed over, since its condition does not hold. -/
  | skippedElement (name condition : Text)
  /-- An item group is passed over, since it has a label. -/
  | skippedItemGroup (label : Text)
  /-- A folder in a solution is passed over. -/
  | skippedFolder (name : Text)
  /-- A project with so many items is loaded. -/
  | loadedProject (path : Text) (items : Nat)
  /-- A line of the listing of a build. -/
  | listed (line : Text)
  /-- So many entries are written to a file. -/
  | wroteEntries (count : Nat) (path : Text)
  /-- A file is complete. -/
  | generated (path : Text)
  /-- A fault ends the run. -/
  | failed (fault : Fault)
deriving Repr

namespace Notice

/-- How much the notice matters. -/
def severity : Notice → Severity
  | skippedElement _ _ | skippedItemGroup _ | skippedFolder _ => .debug
  | loadedProject _ _ | listed _ | wroteEntries _ _ | generated _ => .info
  | failed _ => .error

/-- The part of the program that speaks. -/
def speaker : Notice → Text
  | skippedElement _ _ | skippedItemGroup _ | loadedProject _ _ => "vsccc.core.project".toList
  | skippedFolder _ => "vsccc.core.solution".toList
  | wroteEntries _ _ => "vsccc.generators.compile_commands".toList
  | listed _ | generated _ | failed _ => "vsccc".toList

/-- The notice in words. -/
def message : Notice → Text
  | skippedElement name condition =>
    "Skipping <".toList ++ name ++ " Condition=".toList ++ condition.literal ++ ['>']
  | skippedItemGroup label => "Skipping labelled item group ".toList ++ label.literal
  | skippedFolder name => "Skipping solution folder ".toList ++ name
  | loadedProject path items =>
    "Loaded ".toList ++ path ++ " (".toList ++ Text.ofNat items ++ " items)".toList
  | listed line => line
  | wroteEntries count path =>
    "Wrote ".toList ++ Text.ofNat count ++ " entries to ".toList ++ path
  | generated path => "Generated ".toList ++ path
  | failed fault => fault.message

/-- The line that tells a notice. -/
def line (namesSpeaker : Bool) (n : Notice) : Text :=
  n.severity.name ++ ": ".toList
    ++ (if namesSpeaker then n.speaker ++ ": ".toList else []) ++ n.message ++ ['\n']

end Notice

end CompilationDatabase
