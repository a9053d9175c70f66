import CompilationDatabase.CommandLine.Options
import CompilationDatabase.Text.Case.Lower
import CompilationDatabase.Text.Digit

/-!
# Arguments — what a command line asks for

Arguments are read in three steps.

* `normalize` takes the property options of other build tools apart, `-p:N=V` into two arguments.
* `scan` tells options and plain arguments apart. A long name may be shortened as long as it is
  clear which is meant; after two hyphens all arguments are plain.
* `consume` takes the arguments one after the other into `Settings`. The first plain argument is the
  path. What is left over is refused at the end, so a request for help or for the version is met
  first if it comes first.
-/

namespace CompilationDatabase.CommandLine

/-! ## Property options of other build tools -/

/-- What a property option of another build tool starts with, in lower case. -/
def propertyPrefixes : List Text :=
  ["--property:", "-property:", "/property:", "-p:", "/p:"].map String.toList

/-- The arguments that one argument stands for. -/
def normalizeArgument (argument : Text) : List Text :=
  match propertyPrefixes.find? (·.isPrefixOf argument.lower) with
  | some start => ["--property".toList, argument.drop start.length]
  | none => [argument]

/-- The arguments with the property options of other build tools taken apart. -/
def normalize (arguments : List Text) : List Text := arguments.flatMap normalizeArgument

/-! ## Options and plain arguments -/

/-- What an argument is. -/
inductive Argument
  | plain (text : Text)
  /-- Two hyphens. -/
  | separator
  /-- An option, by a short name or a long one, with the text that is attached to it. -/
  | option (o : Opt) (isShort : Bool) (attached : Option Text)
  /-- What looks like an option and is none. -/
  | unknown (text : Text)
deriving DecidableEq, Repr

/-- An argument up to its first equals sign, and the text that this sign attaches. -/
def splitName (argument : Text) : Text × Option Text :=
  match Text.breakAt? ['='] argument with
  | some (name, attached) => (name, some attached)
  | none => (argument, none)

/-- The names that an argument may be meant for, each with the option and the attached text. -/
def candidates (argument : Text) : List (Text × Opt × Option Text) :=
  match argument with
  | '-' :: '-' :: _ =>
    let (start, attached) := splitName argument
    (Opt.spellings.filter fun s => start.isPrefixOf s.1).map fun (name, o) => (name, o, attached)
  | '-' :: c :: rest =>
    (Opt.spellings.filter fun s => s.1 = ['-', c]).map fun (name, o) => (name, o, some rest)
  | _ => []

/-- Whether a name is a short one. -/
def isShort : Text → Bool
  | '-' :: c :: _ => c != '-'
  | _ => false

/-- What an argument before any separator is. -/
def classify (argument : Text) : Except Refusal Argument :=
  if argument.head? ≠ some '-' then .ok (.plain argument)
  else match Opt.ofName? argument with
    | some o => .ok (.option o (isShort argument) none)
    | none =>
      let (name, attached) := splitName argument
      match Opt.ofName? name, attached with
      | some o, some attached => .ok (.option o (isShort name) (some attached))
      | _, _ =>
        match candidates argument with
        | [(name, o, attached)] => .ok (.option o (isShort name) attached)
        | [] =>
          if argument.length = 1 ∨ Text.isNegativeNumber argument ∨ ' ' ∈ argument then
            .ok (.plain argument)
          else .ok (.unknown argument)
        | several => .error (.ambiguous argument (several.map (·.1)))

/-- What the arguments are. -/
def scan : List Text → Except Refusal (List Argument)
  | [] => .ok []
  | argument :: rest =>
    if argument = "--".toList then .ok (.separator :: rest.map .plain)
    else do
      let first ← classify argument
      let others ← scan rest
      return first :: others

/-! ## Bundles -/

/-- An option as it is used, with its value. An option that takes none has none, and one that takes
    a value has none if two hyphens stand in its place. -/
abbrev Use := Opt × Option Text

/-- The options in one argument: those that are complete, and the option whose value is the next
    argument. -/
structure Bundle where
  uses : List Use := []
  awaiting : Option Opt := none
deriving DecidableEq, Repr

namespace Bundle

/-- A bundle of one use. -/
def single (o : Opt) (value : Option Text) : Bundle := { uses := [(o, value)] }

/-- A bundle with an option without a value in front. -/
def withFlag (o : Opt) (b : Bundle) : Bundle := { b with uses := (o, none) :: b.uses }

/-- An option to which nothing is attached. -/
def opened (o : Opt) : Bundle := if o.takesValue then { awaiting := some o } else single o none

/-- An option that takes a value, with the text that is attached to it: two hyphens separate
    arguments here too, and are no value. -/
def withValue (o : Opt) (attached : Text) : Bundle :=
  single o (if attached = "--".toList then none else some attached)

/-- The options after one hyphen, from an option and the text that is attached to it: in an option
    that takes no value, each character names a further one. -/
def ofShort (o : Opt) (attached : Text) : Except Refusal Bundle :=
  if o.takesValue then .ok (withValue o attached)
  else match attached with
    | [] => .error (.extraValue o [])
    | c :: rest =>
      match Opt.ofName? ['-', c] with
      | none => .error (.extraValue o (c :: rest))
      | some next =>
        if rest = [] then .ok (withFlag o (opened next)) else withFlag o <$> ofShort next rest

/-- The options in one argument. -/
def of (o : Opt) (isShort : Bool) : Option Text → Except Refusal Bundle
  | none => .ok (opened o)
  | some attached =>
    if isShort then ofShort o attached
    else if o.takesValue then .ok (withValue o attached)
    else .error (.extraValue o attached)

end Bundle

/-! ## Settings -/

/-- What a run is asked to do. -/
structure Settings where
  verbose : Bool := false
  debug : Bool := false
  /-- The property strings; `none` stands for a property option that has none. -/
  properties : List (Option Text) := []
  outputDir : Option Text := none
  path : Option Text := none
deriving DecidableEq, Repr

/-- Why there is no run. -/
inductive Ending
  | help
  | version
  | refused (refusal : Refusal)
deriving DecidableEq, Repr

/-- How far the path is read. -/
inductive PathState
  /-- No path was found. -/
  | missing
  /-- The argument before was the path. -/
  | justRead
  /-- The path was found before. -/
  | read
deriving DecidableEq, Repr

/-- What was read of the arguments. -/
structure Progress where
  settings : Settings := {}
  path : PathState := .missing
  leftOver : List Text := []
deriving DecidableEq, Repr

namespace Progress

/-- Leaves an argument over. -/
def leave (p : Progress) (argument : Text) : Progress :=
  { p with path := if p.path = .justRead then .read else p.path
           leftOver := p.leftOver ++ [argument] }

/-- Takes a plain argument: the first one is the path. -/
def plain (p : Progress) (argument : Text) : Progress :=
  if p.path = .missing then
    { p with path := .justRead, settings := { p.settings with path := some argument } }
  else p.leave argument

/-- Takes a separator: next to the path, before it or after it, it has no meaning of its own. -/
def separator (p : Progress) : Progress :=
  match p.path with
  | .missing => p
  | .justRead => { p with path := .read }
  | .read => p.leave "--".toList

/-- Takes an option. -/
def option (p : Progress) (use : Use) : Except Ending Progress :=
  let p := if p.path = .justRead then { p with path := .read } else p
  match use.1 with
  | .help => .error .help
  | .version => .error .version
  | .verbose => .ok { p with settings := { p.settings with verbose := true } }
  | .debug => .ok { p with settings := { p.settings with debug := true } }
  | .property =>
    .ok { p with settings := { p.settings with properties := p.settings.properties ++ [use.2] } }
  | .outputDir => .ok { p with settings := { p.settings with outputDir := use.2 } }

/-- Takes options in their order. -/
def options (p : Progress) (uses : List Use) : Except Ending Progress := uses.foldlM option p

end Progress

/-- Takes the arguments one after the other. -/
def consume (p : Progress) : List Argument → Except Ending Settings
  | [] =>
    if p.leftOver = [] then .ok p.settings else .error (.refused (.unrecognized p.leftOver))
  | .plain argument :: rest => consume (p.plain argument) rest
  | .separator :: rest => consume p.separator rest
  | .unknown argument :: rest => consume (p.leave argument) rest
  | .option o isShort attached :: rest =>
    match Bundle.of o isShort attached with
    | .error refusal => .error (.refused refusal)
    | .ok b =>
      match b.awaiting, rest with
      | none, rest => do consume (← p.options b.uses) rest
      | some last, .plain argument :: rest => do
        consume (← p.options (b.uses ++ [(last, some argument)])) rest
      | some last, _ => .error (.refused (.missingValue last))

/-- What the arguments ask for. -/
def parse (arguments : List Text) : Except Ending Settings :=
  match scan (normalize arguments) with
  | .error refusal => .error (.refused refusal)
  | .ok arguments => consume {} arguments

end CompilationDatabase.CommandLine
