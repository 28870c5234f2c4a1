/-!
# Failures of reading

Why a file, a directory or a stream of bytes could not be read, and the sentence shown for
each cause.
-/

namespace SchemaUpgrade

/-- A reason why something could not be read. -/
inductive ReadError where
  /-- No entry has this name. -/
  | notFound
  /-- A component before the last one is no directory. -/
  | notADirectory
  /-- A directory stands where a file was expected. -/
  | isADirectory
  /-- Following symbolic links does not end. -/
  | tooManyLinks
  /-- A name, or a whole path, is longer than names and paths can be. -/
  | nameTooLong
  /-- A path has a character that no name can have. -/
  | nulInPath
  /-- The bytes are not the UTF-8 encoding of a text. -/
  | notUtf8
  /-- A failure described only by its text. -/
  | other (text : String)
  deriving DecidableEq, Repr, Inhabited

/-- The sentence that describes the failure. -/
def ReadError.message : ReadError → String
  | .notFound => "No such file or directory (os error 2)"
  | .notADirectory => "Not a directory (os error 20)"
  | .isADirectory => "Is a directory (os error 21)"
  | .tooManyLinks => "Too many levels of symbolic links (os error 40)"
  | .nameTooLong => "File name too long (os error 36)"
  | .nulInPath => "file name contained an unexpected NUL byte"
  | .notUtf8 => "stream did not contain valid UTF-8"
  | .other text => text

end SchemaUpgrade
