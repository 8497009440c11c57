import Manuscript.Path

/-!
# Arguments of the command line

There are two commands: `latex` compiles a document and `templates` lists the packages of a library. An option has a
long name, and some have a short one. The value of an option follows as the next argument or stands behind an equals
sign, and behind a short name it may also follow at once. No option may be given twice, a value that starts with a
hyphen must stand in the same argument, and no path may be empty. Behind two hyphens there are no options.
-/

namespace Manuscript.CommandLine

/-- The arguments of `latex`. -/
structure LatexArguments where
  /-- The document. -/
  input : Path
  /-- The directory for the PDF. -/
  output : Path := ⟨"output"⟩
  /-- The package, which overrules the settings. -/
  template : Option String := none
  /-- Whether to stop when the sources are written. -/
  noPdf : Bool := false
  /-- The directory for the sources, which overrules the settings. -/
  latexDir : Option Path := none
  /-- The settings file, when it is not the one next to the document. -/
  config : Option Path := none
  deriving DecidableEq, Inhabited

/-- What a command line asks for. -/
inductive Request where
  | latex (arguments : LatexArguments)
  | templates (directory : Option Path)
  | version
  | help
  deriving DecidableEq, Inhabited

/-- An option of a command. -/
structure OptionForm where
  long : String
  short : Option Char := none
  takesValue : Bool := true
  deriving DecidableEq, Inhabited

/-- The options of `latex`. -/
def latexOptions : List OptionForm :=
  [{ long := "output", short := some 'o' }, { long := "template", short := some 't' },
    { long := "no-pdf", takesValue := false }, { long := "latex-dir" }, { long := "config", short := some 'c' },
    { long := "help", short := some 'h', takesValue := false }]

/-- The options of `templates`. -/
def templatesOptions : List OptionForm :=
  [{ long := "template-dir" }, { long := "help", short := some 'h', takesValue := false }]

/-- The arguments of a command sorted: options by their long names with their values, and the rest. -/
structure Sorted where
  options : List (String × String) := []
  operands : List String := []
  deriving DecidableEq, Inhabited

/-- Sorted arguments with an option more, unless it is there already. -/
def Sorted.addOption? (sorted : Sorted) (name value : String) : Option Sorted :=
  if (sorted.options.lookup name).isSome then none
    else some { sorted with options := sorted.options ++ [(name, value)] }

/-- What stands before and behind the first equals sign of a text. -/
def cutAtEquals (s : List Char) : List Char × Option (List Char) :=
  match s.dropWhile (· ≠ '=') with
  | [] => (s, none)
  | _ :: value => (s.takeWhile (· ≠ '='), some value)

/-- The option that an argument is, with the value that stands in it. -/
def optionOf? (forms : List OptionForm) (argument : List Char) : Option (OptionForm × Option (List Char)) :=
  match argument with
  | '-' :: '-' :: rest =>
    let (name, value) := cutAtEquals rest
    (forms.find? (fun form => form.long.toList == name)).map (·, value)
  | '-' :: letter :: rest =>
    (forms.find? (fun form => form.short == some letter)).map (fun form =>
      (form, match rest with
        | [] => none
        | '=' :: value => some value
        | value => some value))
  | _ => none

/-- Whether an argument can be the value of the option before it, or an operand. -/
def isPlain (argument : String) : Bool :=
  match argument.toList with
  | '-' :: _ :: _ => false
  | _ => true

/-- The arguments of a command, sorted. -/
def sort? (forms : List OptionForm) (sorted : Sorted) : List String → Option Sorted
  | [] => some sorted
  | argument :: rest =>
    if argument = "--" then some { sorted with operands := sorted.operands ++ rest }
    else if isPlain argument then sort? forms { sorted with operands := sorted.operands ++ [argument] } rest
    else
      match optionOf? forms argument.toList with
      | none => none
      | some (form, value) =>
        if form.takesValue then
          match value with
          | some value =>
            match sorted.addOption? form.long (String.ofList value) with
            | some sorted => sort? forms sorted rest
            | none => none
          | none =>
            match rest with
            | [] => none
            | value :: rest =>
              if isPlain value then
                match sorted.addOption? form.long value with
                | some sorted => sort? forms sorted rest
                | none => none
              else none
        else
          match value with
          | some _ => none
          | none =>
            match sorted.addOption? form.long "" with
            | some sorted => sort? forms sorted rest
            | none => none

/-- A path that an option or an operand is; it must not be empty. -/
def path? (text : String) : Option Path :=
  if text.isEmpty then none else some ⟨text⟩

/-- The path of an option that may be missing. -/
def Sorted.path? (sorted : Sorted) (name : String) : Option (Option Path) :=
  match sorted.options.lookup name with
  | none => some none
  | some text => (CommandLine.path? text).map some

/-- Whether help is asked for. -/
def Sorted.asksForHelp (sorted : Sorted) : Bool :=
  (sorted.options.lookup "help").isSome

/-- The request of sorted arguments of `latex`. -/
def latexRequest? (sorted : Sorted) : Option Request :=
  if sorted.asksForHelp then some .help
  else
    match sorted.operands with
    | [input] => do
      let input ← path? input
      let output ← sorted.path? "output"
      let latexDir ← sorted.path? "latex-dir"
      let config ← sorted.path? "config"
      pure (.latex
        { input, output := output.getD ⟨"output"⟩, template := sorted.options.lookup "template"
          noPdf := (sorted.options.lookup "no-pdf").isSome, latexDir, config })
    | _ => none

/-- The request of sorted arguments of `templates`. -/
def templatesRequest? (sorted : Sorted) : Option Request :=
  if sorted.asksForHelp then some .help
  else
    match sorted.operands with
    | [] => (sorted.path? "template-dir").map .templates
    | _ => none

/-- What arguments ask for; nothing when they are misused. -/
def parse? : List String → Option Request
  | "latex" :: rest => (sort? latexOptions {} rest).bind latexRequest?
  | "templates" :: rest => (sort? templatesOptions {} rest).bind templatesRequest?
  | "help" :: rest => if rest.isEmpty || [["latex"], ["templates"], ["help"]].contains rest then some .help else none
  | first :: _ =>
    if first = "--version" || ['-', 'V'].isPrefixOf first.toList then some .version
    else if first = "--help" || ['-', 'h'].isPrefixOf first.toList then some .help
    else none
  | [] => none

end Manuscript.CommandLine
