import Manuscript.Options
import Manuscript.Toml.Parser
import Manuscript.Toml.Record

/-!
# Options in settings files

The table `latex` of a TOML text holds the options, and every one of them may be left out.
-/

namespace Manuscript

namespace Tags

/-- Tags from a TOML value: the first two of its strings. -/
def ofToml? : Toml → Option Tags
  | .array (opening :: closing :: _) => do
    let opening ← Toml.text? opening
    let closing ← Toml.text? closing
    pure { opening, closing }
  | _ => none

end Tags

namespace Options

/-- A time from a TOML value. -/
def seconds? : Toml → Option UInt64
  | .integer n => if 0 ≤ n then some (UInt64.ofNat n.toNat) else none
  | _ => none

/-- A directory from a TOML value. -/
def directory? (value : Toml) : Option (Option Path) :=
  (Toml.text? value).map (fun text => some ⟨text⟩)

/-- Options from a TOML value. -/
def ofToml? (toml : Toml) : Option Options := do
  let standard : Options := {}
  let fields ← Toml.record? fieldNames toml
  let template ← Toml.fieldOr fields "template" standard.template Toml.text?
  let tags ← Toml.fieldOr fields "tags" standard.tags Tags.ofToml?
  let pdf ← Toml.fieldOr fields "pdf" standard.pdf Toml.bool?
  let latexDir ← Toml.fieldOr fields "latexDir" none directory?
  let vspace ← Toml.fieldOr fields "vspace" standard.vspace Toml.dictionary?
  let prefixes ← Toml.fieldOr fields "prefixes" standard.prefixes Toml.dictionary?
  let compilers ← Toml.fieldOr fields "compilers" standard.compilers Toml.strings?
  let timeoutSecs ← Toml.fieldOr fields "timeoutSecs" standard.timeoutSecs seconds?
  let templateDir ← Toml.fieldOr fields "templateDir" none directory?
  pure { template, tags, pdf, latexDir, vspace, prefixes, compilers, timeoutSecs, templateDir }

/-- The options of a settings file. -/
def parseSettings? (s : List Char) : Option Options := do
  let entries ← Toml.parse? s
  Toml.fieldOr entries "latex" {} ofToml?

end Options

end Manuscript
