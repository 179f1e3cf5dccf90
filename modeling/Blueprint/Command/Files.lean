/-!
# Files

What a command does with files, and what can go wrong there.

* `FileError`: why a file could not be used.
* `Files`: the files that a command works on.
-/

namespace Blueprint.Command

/-- Why a file or directory could not be used. -/
inductive FileError where
  | missing
  | alreadyExists
  | notDirectory
  | isDirectory
  | nameTooLong
  /-- A path holds a null character. -/
  | nullInPath
  /-- A file does not hold text. -/
  | notText
  /-- Anything else, in the words of the system. -/
  | other (message : String)
  deriving DecidableEq, Repr

/-- The wording of an error. -/
def FileError.message : FileError → String
  | missing => "No such file or directory (os error 2)"
  | alreadyExists => "File exists (os error 17)"
  | notDirectory => "Not a directory (os error 20)"
  | isDirectory => "Is a directory (os error 21)"
  | nameTooLong => "File name too long (os error 36)"
  | nullInPath => "file name contained an unexpected NUL byte"
  | notText => "stream did not contain valid UTF-8"
  | other message => message

/-- The files that a command works on. -/
structure Files (m : Type → Type) where
  /-- The text of a file. -/
  read : String → m (Except FileError String)
  /-- Whether there is anything at a path. -/
  isThere : String → m Bool
  /-- Makes a directory and all those that it lies in. -/
  makeDirectories : String → m (Except FileError Unit)
  /-- Makes a file of a text, or gives an existing one that text. -/
  write : String → String → m (Except FileError Unit)

end Blueprint.Command
