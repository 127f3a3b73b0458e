/-!
# File errors

What the file system answers when it refuses.
-/

namespace RemoteDesktop

/-- Why a file operation failed. -/
inductive FileError where
  | notFound
  | alreadyExists
  /-- A path leads through something that is no directory. -/
  | notDirectory
  /-- A path, or a step of it, is too long. -/
  | nameTooLong
  /-- A path contains the character that ends texts inside the system. -/
  | notAPath
  /-- The contents are read as text and are not UTF-8. -/
  | notText
  /-- Any other failure, in the system's words. -/
  | other (text : String)
  deriving DecidableEq, Repr

/-- The wording of a file error. -/
def FileError.message : FileError → String
  | notFound => "No such file or directory (os error 2)"
  | alreadyExists => "File exists (os error 17)"
  | notDirectory => "Not a directory (os error 20)"
  | nameTooLong => "File name too long (os error 36)"
  | notAPath => "file name contained an unexpected NUL byte"
  | notText => "stream did not contain valid UTF-8"
  | other text => text

end RemoteDesktop
