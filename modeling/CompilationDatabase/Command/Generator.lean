import CompilationDatabase.Command.Basic
import CompilationDatabase.Fault
import CompilationDatabase.File.Tree

/-!
# Generators — files written for other tools

A generator writes one file for a build into a directory, which is made if it is not there. The
compilation database is `compile_commands.json`.
-/

namespace CompilationDatabase

/-- What writes files for other tools: a kind of generator, and the name that it goes by. -/
structure Generator where
  kind : Text
  name : Text
deriving DecidableEq, Repr

namespace Generator

/-- A generator of which only the name is known. -/
def named (name : Text) : Generator := ⟨"BaseGenerator".toList, name⟩

/-- The generator of compilation databases. -/
def compileCommands : Generator := ⟨"CompileCommandsGenerator".toList, "compile_commands".toList⟩

/-- The generator as one line. -/
def shown (g : Generator) : Text := g.kind ++ '(' :: g.name.literal ++ [')']

/-- The fault if a directory cannot be written to. -/
def fault (g : Generator) (directory : Path) (e : FileError) : Fault :=
  .ofFile (.unwritable g.name) directory.text e

end Generator

namespace CompileCommand

/-- The name of the file that holds a compilation database. -/
def fileName : Text := "compile_commands.json".toList

/-- Writes the database with some entries into a directory, and tells the path of the file. -/
def writeDatabase (room : Option Nat) (directory : Path) (commands : List CompileCommand) :
    FileTree.Change Path := do
  FileTree.makeDirectories directory
  let path := directory.child fileName
  FileTree.write room path.text (Text.Utf8.encode (databaseText commands))
  return path

end CompileCommand

end CompilationDatabase
