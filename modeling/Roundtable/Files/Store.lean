import Roundtable.Files.Path
/-!
What a session needs of the files around it: to see whether a path exists, to read a text, and to
save one. Sessions are stated over any store that offers this.
-/

namespace Roundtable

inductive FileFault where
  | notFound
  | exists
  | notDirectory
  | isDirectory
  | nameTooLong
  | accessDenied
  /-- A path with a zero character. -/
  | zeroInPath
  /-- The content of a file, or a line of input, is not encoded as UTF-8. -/
  | notText
  /-- Any other reason that the system gives. -/
  | other (reason : String)
  deriving DecidableEq, Repr

def FileFault.message : FileFault → String
  | .notFound => "No such file or directory (os error 2)"
  | .exists => "File exists (os error 17)"
  | .notDirectory => "Not a directory (os error 20)"
  | .isDirectory => "Is a directory (os error 21)"
  | .nameTooLong => "File name too long (os error 36)"
  | .accessDenied => "Permission denied (os error 13)"
  | .zeroInPath => "file name contained an unexpected NUL byte"
  | .notText => "stream did not contain valid UTF-8"
  | .other reason => reason

/-- Why a text is not saved: the directory for it cannot be made, or it cannot be written. -/
inductive SaveFault where
  | directory (path : String) (fault : FileFault)
  | writing (path : String) (fault : FileFault)
  deriving DecidableEq, Repr

def SaveFault.message : SaveFault → String
  | .directory path fault => "Cannot create directory '" ++ path ++ "': " ++ fault.message
  | .writing path fault => "Cannot write history to '" ++ path ++ "': " ++ fault.message

/-- A store of files, as a value: saving gives the store after it. -/
class FileStore (σ : Type) where
  exists? : σ → String → Bool
  read : σ → String → Except FileFault String
  /-- Saves a text, and makes the directory for it first. What was made before a fault stays. -/
  save : σ → String → String → σ × Except SaveFault Unit

end Roundtable
