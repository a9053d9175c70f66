import CompilationDatabase.Text.Literal

/-!
# Options of the command line

Each option has one or more names, and some take a value. `Refusal` tells why arguments make no
sense, in words that name the options concerned.
-/

namespace CompilationDatabase.CommandLine

/-- The options. -/
inductive Opt
  | help
  | version
  | verbose
  | debug
  | property
  | outputDir
deriving DecidableEq, Repr

namespace Opt

/-- All options. -/
def all : List Opt := [help, version, verbose, debug, property, outputDir]

/-- The names of an option, short ones first. -/
def names : Opt → List Text
  | help => ["-h".toList, "--help".toList]
  | version => ["--version".toList]
  | verbose => ["-v".toList, "--verbose".toList]
  | debug => ["--debug".toList]
  | property => ["-p".toList, "--property".toList]
  | outputDir => ["-o".toList, "--output-dir".toList]

/-- Whether an option takes a value. -/
def takesValue : Opt → Bool
  | property | outputDir => true
  | _ => false

/-- Every name, with the option that it names. -/
def spellings : List (Text × Opt) := all.flatMap fun o => o.names.map fun name => (name, o)

/-- The option with a name. -/
def ofName? (name : Text) : Option Opt := spellings.lookup name

/-- All names of an option. -/
def shown (o : Opt) : Text := Text.join '/' o.names

theorem mem_all (o : Opt) : o ∈ all := by
  cases o <;> decide

end Opt

/-- Why arguments make no sense. -/
inductive Refusal
  /-- An argument shortens more than one name. -/
  | ambiguous (argument : Text) (names : List Text)
  /-- Arguments that are not asked for. -/
  | unrecognized (arguments : List Text)
  /-- An option without the value that it takes. -/
  | missingValue (o : Opt)
  /-- An option with a value, which it does not take. -/
  | extraValue (o : Opt) (value : Text)
deriving DecidableEq, Repr

/-- The refusal in words. -/
def Refusal.message : Refusal → Text
  | ambiguous argument names =>
    "ambiguous option: ".toList ++ argument ++ " could match ".toList
      ++ List.intercalate ", ".toList names
  | unrecognized arguments => "unrecognized arguments: ".toList ++ Text.join ' ' arguments
  | missingValue o => "argument ".toList ++ o.shown ++ ": expected one argument".toList
  | extraValue o value =>
    "argument ".toList ++ o.shown ++ ": ignored explicit argument ".toList ++ value.literal

end CompilationDatabase.CommandLine
