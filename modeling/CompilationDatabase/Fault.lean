import CompilationDatabase.File.Error
import CompilationDatabase.Text.Utf8
import CompilationDatabase.Time.Stamp

/-!
# Faults — why a build cannot be loaded or written

A `Cause` says what is wrong with a build: one constructor for each kind of mistake, with what the
mistake is about. Every cause belongs to a `Category`, and a category ends the program with a status
of its own. The words of a cause are in `Cause.message`, and nowhere else.

A `Fault` is a cause found at some location, or a failure below the build that no cause covers: a
file operation refused, a time that cannot be written, an encoding that cannot be read, an option
that is left without its property string.
-/

namespace CompilationDatabase

/-- The kinds of causes: each has its own words, and all but the first belong to a wider kind. -/
inductive Category
  | general
  | usage
  | projectLoad
  | unsupportedProjectType
  | undefinedReference
  | undefinedMacro
  | unknownMetadata
  | parse
  | substitution
  | unclosedToken
  | crossedToken
  | circularReference
  | unsupportedCondition
  | missingResource
  | missingProject
  | output
deriving DecidableEq, Repr

/-- The wider categories, the nearest first. -/
def Category.wider : Category → List Category
  | .general => []
  | .usage | .projectLoad | .undefinedReference | .parse | .missingResource | .output => [.general]
  | .unsupportedProjectType => [.projectLoad, .general]
  | .undefinedMacro | .unknownMetadata => [.undefinedReference, .general]
  | .substitution | .unsupportedCondition => [.parse, .general]
  | .unclosedToken | .crossedToken | .circularReference => [.substitution, .parse, .general]
  | .missingProject => [.missingResource, .general]

/-- The status with which the program ends. -/
def Category.exitStatus : Category → Nat
  | .general => 1
  | .usage => 2
  | .projectLoad | .unsupportedProjectType => 3
  | .undefinedReference | .undefinedMacro | .unknownMetadata => 4
  | .parse | .substitution | .unclosedToken | .crossedToken | .circularReference
  | .unsupportedCondition => 5
  | .missingResource | .missingProject => 6
  | .output => 7

/-- What is wrong with a build. -/
inductive Cause
  /-- A property string with an entry that is not a name and a value. -/
  | invalidProperties (properties : Text)
  /-- A project file that cannot be read. -/
  | unreadableProject (error : FileError)
  /-- A project file that is no well-formed document. -/
  | malformedProject
  /-- A solution file that cannot be read. -/
  | unreadableSolution (error : FileError)
  /-- A solution file that is not UTF-8. -/
  | undecodableSolution (error : Text.Utf8.Malformed)
  /-- A directory with more than one solution. -/
  | severalSolutions
  /-- A directory with neither a solution nor a project. -/
  | noProjects
  /-- A directory without a solution and with more than one project. -/
  | severalProjects
  /-- A path that should be a solution or project and is no file. -/
  | noTarget
  /-- A solution lists a project of a type that cannot be loaded. -/
  | unsupportedProjectType (guid : Text)
  /-- A macro that is used and has no value. -/
  | undefinedMacro (name : Text)
  /-- A name that is not among the metadata of an item. -/
  | unknownMetadata (name : Text)
  /-- A token that is opened and never closed. -/
  | unclosedToken (fragment : Text)
  /-- A token that is opened and never closed, in which another one is opened. -/
  | crossedToken (fragment : Text)
  /-- A name whose value leads back to it. -/
  | circularReference (chain : List Text)
  /-- Values that lead to further values, more of them than allowed. -/
  | tooDeep
  /-- A condition that is no comparison. -/
  | unsupportedCondition (condition : Text)
  /-- A solution lists a project file that does not exist. -/
  | missingProject (path : Text)
  /-- Output that cannot be written. -/
  | unwritable (generator : Text) (error : FileError)
  /-- A cause that is known by its category and its words alone. -/
  | noted (category : Category) (words : Text)
deriving Repr

namespace Cause

/-- The narrowest category of a cause. -/
def category : Cause → Category
  | invalidProperties _ => .usage
  | unreadableProject _ | malformedProject | unreadableSolution _ | undecodableSolution _
  | severalSolutions | noProjects | severalProjects | noTarget => .projectLoad
  | unsupportedProjectType _ => .unsupportedProjectType
  | undefinedMacro _ => .undefinedMacro
  | unknownMetadata _ => .unknownMetadata
  | unclosedToken _ => .unclosedToken
  | crossedToken _ => .crossedToken
  | circularReference _ => .circularReference
  | tooDeep => .substitution
  | unsupportedCondition _ => .unsupportedCondition
  | missingProject _ => .missingProject
  | unwritable _ _ => .output
  | noted category _ => category

/-- The cause in words. -/
def message : Cause → Text
  | invalidProperties properties => "invalid property string: ".toList ++ properties
  | unreadableProject error => "failed to load project: ".toList ++ error.message
  | malformedProject => "failed to load project: <xml error>".toList
  | unreadableSolution error => "failed to load solution: ".toList ++ error.message
  | undecodableSolution error => "failed to load solution: ".toList ++ error.message
  | severalSolutions => "multiple solutions found in directory".toList
  | noProjects => "no projects found in directory".toList
  | severalProjects => "multiple projects found in directory".toList
  | noTarget => "specified project does not exist".toList
  | unsupportedProjectType guid => "unsupported project type: ".toList ++ guid
  | undefinedMacro name => "undefined macro: $(".toList ++ name ++ [')']
  | unknownMetadata name => "unknown item metadata: %(".toList ++ name ++ [')']
  | unclosedToken fragment => "failed to parse substitution: ".toList ++ fragment
  | crossedToken fragment => "interleaved substitution not supported: ".toList ++ fragment
  | circularReference chain =>
    "circular reference: ".toList ++ List.intercalate " -> ".toList chain
  | tooDeep => "substitution is nested too deeply".toList
  | unsupportedCondition condition => "unsupported condition: ".toList ++ condition
  | missingProject path => "dependent project does not exist: ".toList ++ path
  | unwritable generator error =>
    "failed to write ".toList ++ generator ++ ": ".toList ++ error.message
  | noted _ words => words

end Cause

/-- Why a build cannot be loaded or written. -/
inductive Fault
  /-- Something is wrong with the build; the location is usually the file that was read. -/
  | failed (cause : Cause) (location : Option Text)
  /-- A file operation that no cause covers is refused. -/
  | file (error : FileError)
  /-- A time of a file cannot be written. -/
  | time (error : TimeError)
  /-- A document declares an encoding that is not known. -/
  | unknownEncoding (name : Text)
  /-- A document declares as its encoding what writes no characters. -/
  | noEncoding (name : Text)
  /-- A document declares an encoding with characters of several octets that cannot be read. -/
  | wideEncoding
  /-- A document declares an encoding that refuses single octets, in these words. -/
  | refusingEncoding (words : Text)
  /-- A property option without a property string. -/
  | noPropertyString
deriving Repr

namespace Fault

/-- A cause without a location. -/
def of (cause : Cause) : Fault := .failed cause none

/-- The fault for a file operation that failed at a location: the machine's refusal has a cause. -/
def ofFile (cause : FileError → Cause) (location : Text) (e : FileError) : Fault :=
  if e.isRefusal then .failed (cause e) (some location) else .file e

/-- The fault in words, with its location in front if there is one. -/
def message : Fault → Text
  | failed cause none | failed cause (some []) => cause.message
  | failed cause (some location) => location ++ ": ".toList ++ cause.message
  | file error => error.message
  | time error => error.message
  | unknownEncoding name => "unknown encoding: ".toList ++ name
  | noEncoding name =>
    '\'' :: name
      ++ "' is not a text encoding; use codecs.decode() to handle arbitrary codecs".toList
  | wideEncoding => "multi-byte encodings are not supported".toList
  | refusingEncoding words => words
  | noPropertyString => "'list' object has no attribute 'split'".toList

/-- The status with which the program ends; a failure below the build has none. -/
def exitStatus? : Fault → Option Nat
  | failed cause _ => some cause.category.exitStatus
  | _ => none

end Fault

end CompilationDatabase
