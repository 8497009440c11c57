/-!
# Why a file cannot be used

The causes for which the system refuses an operation on files or the start of a program, and their wording.
-/

namespace Manuscript

/-- Why a file cannot be used. -/
inductive FileError where
  | notFound
  | badProgram
  | notPermitted
  | alreadyExists
  | notADirectory
  | isADirectory
  | nameTooLong
  /-- A name with a NUL character. -/
  | nulInName
  /-- Bytes that are no UTF-8 text. -/
  | notText
  /-- A copy of something that is no file. -/
  | notAFile
  /-- A package without the file that its manifest names as the template. -/
  | noTemplateFile
  deriving DecidableEq, Inhabited

namespace FileError

/-- Whether the cause is that something is not there. -/
def isMissing : FileError → Bool
  | notFound => true
  | noTemplateFile => true
  | _ => false

/-- The wording of a cause. -/
def message : FileError → String
  | notFound => "No such file or directory (os error 2)"
  | badProgram => "Exec format error (os error 8)"
  | notPermitted => "Permission denied (os error 13)"
  | alreadyExists => "File exists (os error 17)"
  | notADirectory => "Not a directory (os error 20)"
  | isADirectory => "Is a directory (os error 21)"
  | nameTooLong => "File name too long (os error 36)"
  | nulInName => "file name contained an unexpected NUL byte"
  | notText => "stream did not contain valid UTF-8"
  | notAFile => "the source path is neither a regular file nor a symlink to a regular file"
  | noTemplateFile => "template file missing"

end FileError

end Manuscript
