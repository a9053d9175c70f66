import CompilationDatabase.Text.Literal

/-!
# File errors

A file operation that is refused names the path it was given and one of the reasons of
`FileError.Reason`, each with its number and its words.

These are the reasons that there are where every file may be read and written, no name is a link to
another one and the current directory is there. Permissions, links and a current directory that was
removed are not modelled, and neither are the refusals that come of them.
-/

namespace CompilationDatabase

/-- Why a file operation is refused. -/
inductive FileError.Reason
  /-- Nothing is there. -/
  | notFound
  /-- Something is there already. -/
  | exists
  /-- What should be a directory on the way is none. -/
  | notDirectory
  /-- A directory is where a file should be. -/
  | isDirectory
  /-- A name on the way, or the whole path, is longer than names can be. -/
  | nameTooLong
  /-- The device has no room left. -/
  | noRoom
  /-- A null character is in the path, so no operation can be asked for. -/
  | nullCharacter
deriving DecidableEq, Repr

/-- The number of a reason. -/
def FileError.Reason.number : FileError.Reason → Nat
  | .notFound => 2
  | .exists => 17
  | .notDirectory => 20
  | .isDirectory => 21
  | .nameTooLong => 36
  | .noRoom => 28
  | .nullCharacter => 22

/-- The reason in words. -/
def FileError.Reason.words : FileError.Reason → Text
  | .notFound => "No such file or directory".toList
  | .exists => "File exists".toList
  | .notDirectory => "Not a directory".toList
  | .isDirectory => "Is a directory".toList
  | .nameTooLong => "File name too long".toList
  | .noRoom => "No space left on device".toList
  | .nullCharacter => "embedded null byte".toList

/-- A file operation that is refused, with the path it was given. -/
structure FileError where
  reason : FileError.Reason
  path : Text
deriving DecidableEq, Repr

/-- Whether the machine refused the operation: it was asked for at all. -/
def FileError.isRefusal (e : FileError) : Bool := e.reason ≠ .nullCharacter

/-- The refusal in words. What was not even asked for has no number, and what is refused to a file
    that is open already names no path. -/
def FileError.message (e : FileError) : Text :=
  let refusal := "[Errno ".toList ++ Text.ofNat e.reason.number ++ "] ".toList ++ e.reason.words
  match e.reason with
  | .nullCharacter => e.reason.words
  | .noRoom => refusal
  | _ => refusal ++ ": ".toList ++ e.path.literal

end CompilationDatabase
