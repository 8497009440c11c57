import Manuscript.Typeset.Program

/-!
# Why there is no PDF

The failures of typesetting, and their wording.
-/

namespace Manuscript

/-- Why there is no PDF. -/
inductive TypesetError where
  /-- None of the compilers can be run. -/
  | noCompiler (tried : List String)
  /-- A program reported failure; with the end of what it wrote about it. -/
  | failed (program : String) (status : Typeset.ExitStatus) (tail : List Char)
  | cannotStart (program : String) (error : FileError)
  | timedOut (program : String) (seconds : Nat)
  /-- A compiler was successful but left no PDF. -/
  | noOutput (path : Path)
  | file (error : FileError)
  deriving DecidableEq, Inhabited

namespace TypesetError

/-- The wording of a failure. -/
def message : TypesetError → String
  | noCompiler tried => "No typesetter available (tried: " ++ ", ".intercalate tried ++ ")"
  | failed program status tail => program ++ " failed (" ++ status.message ++ "):\n" ++ String.ofList tail
  | cannotStart program error => "Failed to start " ++ program ++ ": " ++ error.message
  | timedOut program seconds => program ++ " timed out after " ++ toString seconds ++ "s"
  | noOutput path => "Expected output missing: " ++ path.text
  | file error => "I/O error: " ++ error.message

end TypesetError

end Manuscript
