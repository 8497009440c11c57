import Manuscript.Template.Engine
import Manuscript.Template.Render
import Manuscript.Template.Statement.Parser
import Manuscript.Template.Token.Scan

/-!
# Templates

A template is parsed once, with the delimiters of the user's choice around values, and rendered against data. That
makes an engine, which reads templates as they are parsed here (`read?_engine`). Of statements it knows conditions,
loops and assignments, and of filters those in `Filter.names`; it refuses every other. The article template gets by
with these. What is said of compilations is said of every engine, also of one that knows more.
-/

namespace Manuscript

/-- A parsed template. -/
structure Template where
  statements : List Template.Statement
  deriving Inhabited

namespace Template

/-- The template that a text is between delimiters. -/
def parseBetween? (delimiters : Delimiters) (source : List Char) : Option Template :=
  ((tokens? delimiters source).bind Statement.ofTokens?).map Template.mk

/-- The template that a text is, when values stand between the tags. -/
def parse? (tags : Tags) (source : List Char) : Option Template :=
  parseBetween? (Delimiters.ofTags tags) source

/-- The text of a template for data. -/
def render (template : Template) (data : Value) : Except RenderError (List Char) :=
  renderAll template.statements data

/-- The engine that parses and renders in this way. The command line runs with it. -/
def engine : TemplateEngine where
  Parsed := Template
  parse? := parseBetween?
  render := render

/-- The engine reads the templates that texts are: tags that are empty are no delimiters. -/
theorem read?_engine (tags : Tags) (source : List Char) : engine.read? tags source = parse? tags source := by
  by_cases hempty : tags.opening.isEmpty || tags.closing.isEmpty
  · have hinvalid : (Delimiters.ofTags tags).isValid = false := by
      simp only [Bool.or_eq_true, String.isEmpty_iff] at hempty
      rcases hempty with h | h <;> simp [Delimiters.isValid, Delimiters.ofTags, h]
    rw [TemplateEngine.read?, if_pos hempty, parse?, parseBetween?, tokens?, hinvalid]
    rfl
  · rw [TemplateEngine.read?, if_neg hempty]
    rfl

end Template

end Manuscript
