import CompilationDatabase.Build.Basic
import CompilationDatabase.Command.Generator
import CompilationDatabase.CommandLine.Arguments

/-!
# Runs of the program

A run reads its arguments, loads a build and writes the compilation database. `run` is the whole
program as a function of the arguments, one environment variable, the files and the room that their
device has for the database; a `Report` is what it writes out and its status. A failure below the
build that no cause covers has no report.
-/

namespace CompilationDatabase.CommandLine

/-- The name of the program. -/
def programName : Text := "vsccc".toList

/-- The version of the program. -/
def version : Text := "0.1.0".toList

/-- How the program is used, in one line. -/
def usage : Text :=
  "usage: vsccc [-h] [--version] [-v] [--debug] [-p N=V[;N=V]] [-o DIR] [path]\n".toList

/-- How the program is used. -/
def help : Text :=
  usage ++ (List.map String.toList [
    "\n",
    "Generate compile_commands.json from a Visual Studio solution or C++ project.\n",
    "\n",
    "positional arguments:\n",
    "  path                  Solution, project, or directory containing one\n",
    "\n",
    "options:\n",
    "  -h, --help            show this help message and exit\n",
    "  --version             show program's version number and exit\n",
    "  -v, --verbose         Verbose output\n",
    "  --debug               Debug output\n",
    "  -p N=V[;N=V], --property N=V[;N=V]\n",
    "                        Initial property values (also -p:N=V)\n",
    "  -o DIR, --output-dir DIR\n",
    "                        Directory for compile_commands.json (default: solution\n",
    "                        directory)\n",
    "\n",
    "Without a path, the solution or project in the current directory is used.\n"]).flatten

/-- What a run writes out, and how it ends. -/
structure Report where
  status : Nat
  /-- Whether the arguments alone decided. -/
  byArguments : Bool
  output : Text
  log : Text
deriving DecidableEq, Repr

/-- The report where there is no run. -/
def Ending.report : Ending → Report
  | .help => ⟨0, true, CommandLine.help, []⟩
  | .version => ⟨0, true, programName ++ ' ' :: CommandLine.version ++ ['\n'], []⟩
  | .refused refusal =>
    ⟨Category.usage.exitStatus, true, [],
      usage ++ programName ++ ": error: ".toList ++ refusal.message ++ ['\n']⟩

namespace Settings

/-- The least severity of notices that are shown. -/
def level (s : Settings) : Severity :=
  if s.debug then .debug else if s.verbose then .info else .warning

/-- The log of some notices. -/
def log (s : Settings) (notices : List Notice) : Text :=
  (notices.filter fun n => s.level.rank ≤ n.severity.rank).flatMap (·.line s.debug)

/-- The properties of a property option. -/
def propertiesOf : Option Text → Except Fault (NameTable .exact)
  | some text => PropertyString.parse text
  | none => .error .noPropertyString

/-- The macros to start from. -/
def macros (s : Settings) (environment : Option Text) :
    Except Fault (NameTable .ignoringCase) := do
  let properties ← s.properties.mapM propertiesOf
  Macros.seed environment properties

/-- The path of the solution, the project or the directory to load. -/
def start (s : Settings) (files : FileTree) : Path :=
  match s.path with
  | none => files.currentPath
  | some path => .ofText path

/-- The directory for the output: a text that is empty names none. -/
def output? (s : Settings) : Option Path :=
  match s.outputDir with
  | none | some [] => none
  | some directory => some (.ofText directory)

end Settings

/-- What a run changes. -/
structure World where
  files : FileTree
  notices : List Notice := []

/-- A step of a run. -/
abbrev Running := EStateM Fault World

namespace Running

/-- Tells something. -/
def tell (n : Notice) : Running Unit := modify fun w => { w with notices := w.notices ++ [n] }

/-- Loads something. -/
def load {α : Type} (f : Loading α) : Running α := do
  let w ← get
  match f.run w.notices with
  | .ok a notices =>
    set { w with notices }
    return a
  | .error fault notices =>
    set { w with notices }
    throw fault

/-- Changes the files. -/
def change {α : Type} (fault : FileError → Fault) (f : FileTree.Change α) : Running α := do
  let w ← get
  match f.run w.files with
  | .ok a files =>
    set { w with files }
    return a
  | .error e files =>
    set { w with files }
    throw (fault e)

/-- Writes the compilation database of a build into a directory, or else into its own. -/
def generate {m : Matching} (room : Option Nat) (b : Build m) (directory : Option Path) :
    Running Path := do
  let directory := directory.getD b.root
  let path ← change (Generator.compileCommands.fault directory)
    (CompileCommand.writeDatabase room directory b.commands)
  tell (.wroteEntries b.commands.length path.text)
  return path

end Running

/-- Loads the build that the settings name, and writes its compilation database. -/
def execute (s : Settings) (environment : Option Text) (room : Option Nat := none) :
    Running Unit := do
  match s.macros environment with
  | .error fault => throw fault
  | .ok macros =>
    let files := (← get).files
    let b ← Running.load (Build.load files (s.start files) (.ok macros))
    b.listing.forM fun line => Running.tell (.listed line)
    let path ← Running.generate room b s.output?
    Running.tell (.generated path.text)

/-- A run of the program, and the files after it. -/
def run (arguments : List Text) (environment : Option Text) (files : FileTree)
    (room : Option Nat := none) : Except Fault Report × FileTree :=
  match parse arguments with
  | .error ending => (.ok ending.report, files)
  | .ok settings =>
    match (execute settings environment room).run { files } with
    | .ok () w => (.ok ⟨0, false, [], settings.log w.notices⟩, w.files)
    | .error fault w =>
      match fault.exitStatus? with
      | some status =>
        (.ok ⟨status, false, [], settings.log (w.notices ++ [.failed fault])⟩, w.files)
      | none => (.error fault, w.files)

end CompilationDatabase.CommandLine
