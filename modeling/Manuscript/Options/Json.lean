import Manuscript.Json.Parser
import Manuscript.Json.Printer
import Manuscript.Json.Record
import Manuscript.Options

/-!
# Options in JSON

Every field may be left out. Tags are an array of exactly two strings, and a time is a natural number below `2 ^ 64`
without fraction or exponent.
-/

namespace Manuscript

namespace Tags

/-- Tags from a JSON value. -/
def ofJson? (levels : Nat) (json : Json) : Option Tags :=
  match Json.strings? levels json with
  | some [opening, closing] => some { opening, closing }
  | _ => none

/-- Tags as a JSON value. -/
def toJson (tags : Tags) : Json :=
  .ofStrings [tags.opening, tags.closing]

end Tags

namespace Options

/-- A time from a JSON value. -/
def timeout? : Json → Option UInt64
  | .number (.int n) => if 0 ≤ n && n.toNat < UInt64.size then some (UInt64.ofNat n.toNat) else none
  | _ => none

/-- A path from a JSON value. -/
def path? (json : Json) : Option Path :=
  (Json.string? json).map Path.mk

/-- Options from a JSON value. -/
def ofJson? : Nat → Json → Option Options
  | 0, _ => none
  | levels + 1, json => do
    let standard : Options := {}
    let fields ← Json.record? fieldNames json
    let template ← Json.fieldOr fields "template" standard.template Json.string?
    let tags ← Json.fieldOr fields "tags" standard.tags (Tags.ofJson? levels)
    let pdf ← Json.fieldOr fields "pdf" standard.pdf Json.bool?
    let latexDir ← Json.fieldOr fields "latexDir" none (Json.nullable? path?)
    let vspace ← Json.fieldOr fields "vspace" standard.vspace (Json.dictionary? levels)
    let prefixes ← Json.fieldOr fields "prefixes" standard.prefixes (Json.dictionary? levels)
    let compilers ← Json.fieldOr fields "compilers" standard.compilers (Json.strings? levels)
    let timeoutSecs ← Json.fieldOr fields "timeoutSecs" standard.timeoutSecs timeout?
    let templateDir ← Json.fieldOr fields "templateDir" none (Json.nullable? path?)
    pure { template, tags, pdf, latexDir, vspace, prefixes, compilers, timeoutSecs, templateDir }

/-- Options as a JSON value, with null for a directory that is not given. -/
def toJson (options : Options) : Json :=
  .ofMembers
    [("template", .ofString options.template),
      ("tags", options.tags.toJson),
      ("pdf", .bool options.pdf),
      ("latexDir", .ofOption (options.latexDir.map (·.text))),
      ("vspace", .ofDictionary options.vspace),
      ("prefixes", .ofDictionary options.prefixes),
      ("compilers", .ofStrings options.compilers),
      ("timeoutSecs", .ofNat options.timeoutSecs.toNat),
      ("templateDir", .ofOption (options.templateDir.map (·.text)))]

/-- The text of options. -/
def print (options : Options) : List Char :=
  options.toJson.print

/-- The options that a text is. -/
def parse? (s : List Char) : Option Options :=
  (Json.parse? s).bind (ofJson? Json.maxLevels)

end Options

end Manuscript
