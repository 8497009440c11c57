import Manuscript.Dictionary

/-!
# TOML values

The data of a settings file. Numbers with a fraction are read and checked, but no setting uses them, so they keep no
value. Of dates and times the text is kept in its standard form.
-/

namespace Manuscript

/-- A TOML value. -/
inductive Toml where
  | string (text : String)
  | integer (value : Int)
  | decimal
  | bool (value : Bool)
  | dateTime (text : String)
  | array (items : List Toml)
  | table (entries : List (String × Toml))
  deriving Inhabited

end Manuscript
