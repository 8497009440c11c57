import Manuscript.Template.Delimiters
import Manuscript.Template.Error
import Manuscript.Template.Value

/-!
# Template engines

What a compilation asks of an engine: to parse a template between given delimiters, and to render what it parsed for
some data. It knows nothing else of the engine, so what is said of compilations holds whatever can be written in a
template and whatever is made of it.
-/

namespace Manuscript

/-- An engine for templates. -/
structure TemplateEngine where
  /-- What the engine makes of the text of a template. -/
  Parsed : Type
  /-- The template that a text is between delimiters, when it is one. -/
  parse? : Template.Delimiters → List Char → Option Parsed
  /-- The text of a template for data. -/
  render : Parsed → Template.Value → Except Template.RenderError (List Char)

namespace TemplateEngine

/-- The template that a text is when values stand between the tags. Empty tags are refused, whatever the engine
would make of them. -/
def read? (engine : TemplateEngine) (tags : Tags) (source : List Char) : Option engine.Parsed :=
  if tags.opening.isEmpty || tags.closing.isEmpty then none else engine.parse? (.ofTags tags) source

end TemplateEngine

end Manuscript
