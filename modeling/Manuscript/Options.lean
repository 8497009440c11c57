import Manuscript.Dictionary
import Manuscript.Path
import Manuscript.ReferenceKind

/-!
# Options

What a user may choose for one compilation, and the values that stand in for choices not made.
-/

namespace Manuscript

/-- The delimiters around a value in a template. -/
structure Tags where
  opening : String := "<<"
  closing : String := ">>"
  deriving DecidableEq, Inhabited

/-- The choices for one compilation. -/
structure Options where
  /-- The template package. -/
  template : String := "article"
  tags : Tags := {}
  /-- Whether to make a PDF; if not, only the LaTeX sources are written. -/
  pdf : Bool := true
  /-- The directory for the LaTeX sources. -/
  latexDir : Option Path := none
  /-- Spacing commands, by the name of the node in front of which they go. -/
  vspace : Dictionary String := ∅
  /-- The words in front of references, by the name of the kind. -/
  prefixes : Dictionary String :=
    Dictionary.ofList (ReferenceKind.all.map (fun kind => (kind.name, kind.defaultPrefix)))
  /-- The names of the compilers to try, in order. -/
  compilers : List String := ["latexmk", "pdflatex"]
  /-- The time that each external program may take, in seconds. -/
  timeoutSecs : UInt64 := 120
  /-- The directory of template packages to use in place of the built-in one. -/
  templateDir : Option Path := none
  deriving Inhabited

namespace Options

/-- The word in front of references of a kind. -/
def prefixOf (options : Options) (kind : ReferenceKind) : String :=
  (options.prefixes.get? kind.name).getD kind.defaultPrefix

/-- The fields of the options in their order. -/
def fieldNames : List String :=
  ["template", "tags", "pdf", "latexDir", "vspace", "prefixes", "compilers", "timeoutSecs", "templateDir"]

end Options

end Manuscript
