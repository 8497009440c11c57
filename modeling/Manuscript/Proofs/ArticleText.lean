import Manuscript.Package.Article
import Manuscript.Proofs.FormWriting
import Manuscript.TemplateData.Value

/-!
# The text of the article template

The template that comes with the library is the spelling of a form (`source_articleForm`), so what it writes is what
the form writes. That is told line by line (`articleLines`): each line of the template is there as it stands, with
the values in it; a paragraph of an optional value is there with all of its lines exactly when the value is there
and not empty; and the lines of tags leave nothing behind (`articleTemplate_text`).
-/

namespace Manuscript

namespace Template

/-! ## Members of records -/

namespace Value

/-- Two texts compare as equal exactly when they are. -/
theorem compareTexts_eq_iff (a b : List Char) : compareTexts a b = .eq ↔ a = b := by
  induction a generalizing b with
  | nil => cases b <;> simp [compareTexts]
  | cons c rest ih =>
    cases b with
    | nil => simp [compareTexts]
    | cons d others =>
      rw [compareTexts, Ordering.then_eq_eq, ih, compareChars, Nat.compare_eq_eq, List.cons.injEq]
      exact and_congr_left fun _ => ⟨fun h => Char.toNat_inj.1 h, fun h => h ▸ rfl⟩

/-- A member of a record is the value that the record has under its name. -/
theorem member_ofMembers (members : List (String × Value)) (name : String) :
    (ofMembers members).member name = (members.lookup name).getD .undefined := by
  have hkey : ∀ key : String, ((ofString name).compareWith (ofString key) == .eq) = (name == key) := by
    intro key
    have horder : (ofString name).compareWith (ofString key) = compareTexts name.toList key.toList := by
      rw [ofString, ofString, compareWith] <;> simp [kindRank, compareAtoms]
    rw [horder, Bool.eq_iff_iff, beq_iff_eq, compareTexts_eq_iff, beq_iff_eq, String.toList_inj]
  rw [ofMembers, member]
  congr 1
  induction members with
  | nil => rfl
  | cons m rest ih =>
    rw [List.map_cons, lookup?, hkey, List.lookup_cons, ih]
    cases name == m.1 <;> rfl

end Value

/-! ## What parts of forms write -/

namespace Form

/-- A text in front of a form, if it is not empty. -/
def lead (s : List Char) (rest : Form) : Form :=
  if s.isEmpty then rest else .text s rest

/-- A value between two texts, if the value is there and not empty. -/
def present (ownLines : Bool) (ref : Ref) (before behind : List Char) (rest : Form) : Form :=
  .branch ownLines ref (lead before (.value ref (lead behind .done))) rest

/-- A text in front of a form is spelled as it is. -/
theorem source_lead (s : List Char) (rest : Form) : (lead s rest).source = s ++ rest.source := by
  unfold lead
  split
  · rename_i h
    rw [List.isEmpty_iff.1 h]
    rfl
  · rfl

/-- A text in front of a form nests nothing. -/
theorem nesting_lead (s : List Char) (rest : Form) : (lead s rest).nesting = rest.nesting := by
  unfold lead
  split <;> rfl

/-- A form writes a text when names stand for the given values. -/
def Writes (values : String → Value) (form : Form) (written : List Char) : Prop :=
  form.write values = .ok written

variable {values : String → Value} {ref : Ref} {body rest : Form} {s written others : List Char}

theorem Writes.done : Writes values .done [] :=
  rfl

/-- A text is written as it is. -/
theorem Writes.text (h : Writes values rest others) : Writes values (.text s rest) (s ++ others) := by
  rw [Writes, write, h]
  rfl

/-- A comment is not written. -/
theorem Writes.comment (h : Writes values rest others) : Writes values (.comment s rest) others :=
  h

/-- A text in front is written as it is, also when it is empty. -/
theorem Writes.lead (h : Writes values rest others) : Writes values (Form.lead s rest) (s ++ others) := by
  unfold Form.lead
  split
  · rename_i hempty
    rw [List.isEmpty_iff.1 hempty]
    exact h
  · exact h.text

/-- A value is written as its output. -/
theorem Writes.value (h : Writes values rest others) :
    Writes values (.value ref rest) ((ref.value values).output ++ others) := by
  rw [Writes, write, h]
  rfl

/-- A string is written as it is. -/
theorem Writes.string {string : String} (hvalue : ref.value values = .ofString string) (h : Writes values rest others) :
    Writes values (.value ref rest) (string.toList ++ others) := by
  rw [Writes, write, h, hvalue]
  rfl

/-- A branch writes its body when its value counts as true. -/
theorem Writes.branch {ownLines : Bool} (hbody : Writes values body written) (h : Writes values rest others) :
    Writes values (.branch ownLines ref body rest) ((if (ref.value values).isTrue then written else []) ++ others) := by
  rw [Writes, write, h, hbody]
  split <;> rfl

/-- A loop writes its body for one item after another. -/
theorem Writes.loop {α : Type} {ownLines : Bool} {item : String} {list : List α} {toValue : α → Value}
    {text : α → List Char} (hlist : ref.value values = .list (list.map toValue))
    (hbody : ∀ a, Writes (withItem values item (toValue a)) body (text a)) (h : Writes values rest others) :
    Writes values (.loop ownLines item ref body rest) (list.flatMap text ++ others) := by
  have hrounds : (list.map toValue).mapM (fun value => body.write (withItem values item value)) =
      .ok (list.map text) := by
    clear hlist
    induction list with
    | nil => rfl
    | cons a rest ih =>
      rw [List.map_cons, List.mapM_cons, hbody a, ih]
      rfl
  rw [Writes, write, hlist, Value.items?]
  dsimp only
  rw [hrounds, h, List.flatMap_def]
  rfl

/-- Strings are joined by the separator that the template names. -/
theorem Writes.joined {items : List String} {separator : List Char} (hitems : ref.value values = .ofStrings items)
    (h : Writes values rest others) :
    Writes values (.joined ref separator rest) (separator.intercalate (items.map String.toList) ++ others) := by
  have hjoin : Filter.apply "join" (.ofStrings items) { positional := [.string separator] } =
      .ok (.string (separator.intercalate (items.map String.toList))) := by
    have htexts : (items.map Value.ofString).map Value.text = items.map String.toList := by
      rw [List.map_map]
      rfl
    have hresult : Filter.result? "join" (.ofStrings items) { positional := [.string separator] } =
        some (.string (separator.intercalate ((items.map Value.ofString).map Value.text))) := rfl
    rw [Filter.apply, if_pos (by decide), hresult, htexts]
  rw [Writes, write, hitems, hjoin, h]
  rfl

end Form

end Template

/-! ## The lines of an article -/

namespace TemplateData

/-- A value that is there and not empty. -/
def given (value : Option String) : Option String :=
  value.filter (fun s => !s.isEmpty)

/-- An author with an affiliation, if there is one that is not empty. -/
def authorText (author : Author) : String :=
  author.name ++ (given author.affiliation).elim "" (fun affiliation => "\\\\ \\small " ++ affiliation)

/-- The authors, the first one and behind it the others. -/
def authorsText (data : TemplateData) : String :=
  authorText data.firstAuthor ++ String.join (data.otherAuthors.map (fun author => " \\and " ++ authorText author))

/-- The lines of an article. Its values stand in them as they are, even if they are several lines themselves. -/
def articleLines (data : TemplateData) : List String :=
  ["\\documentclass[11pt]\x7barticle\x7d",
    "",
    "\\usepackage[utf8]\x7binputenc\x7d",
    "\\usepackage[T1]\x7bfontenc\x7d",
    "\\usepackage\x7bamsmath\x7d",
    "\\usepackage\x7bgraphicx\x7d",
    "\\usepackage[hidelinks]\x7bhyperref\x7d"] ++
  (given data.graphicsPath).elim [] (fun path => ["\\graphicspath\x7b\x7b" ++ path ++ "\x7d\x7d"]) ++
  (given data.preamble).elim [] (fun preamble => [preamble]) ++
  ["",
    "\\title\x7b" ++ data.title ++ "\x7d",
    "\\author\x7b" ++ data.authorsText ++ "\x7d",
    "\\date\x7b" ++ data.date ++ "\x7d",
    "",
    "\\hypersetup\x7bpdftitle=\x7b" ++ data.title ++ "\x7d" ++
      (given data.shortAuthor).elim "" (fun author => ", pdfauthor=\x7b" ++ author ++ "\x7d") ++ "\x7d",
    "",
    "\\begin\x7bdocument\x7d",
    "",
    "\\maketitle",
    ""] ++
  (given data.teaser).elim []
    (fun teaser => ["\\begin\x7bfigure\x7d[h]", "\\centering", teaser, "\\end\x7bfigure\x7d"]) ++
  (given data.abstract).elim [] (fun abstract => ["\\begin\x7babstract\x7d", abstract, "\\end\x7babstract\x7d"]) ++
  (if data.keywords.isEmpty then [] else ["\\noindent\\textbf\x7bKeywords:\x7d " ++ ", ".intercalate data.keywords,
    ""]) ++
  [data.content, ""] ++
  (given data.acknowledgments).elim [] (fun text => ["\\section*\x7bAcknowledgments\x7d", text]) ++
  (given data.bibliography).elim []
    (fun name => ["\\bibliographystyle\x7bplain\x7d", "\\bibliography\x7b" ++ name ++ "\x7d"]) ++
  ["", "\\end\x7bdocument\x7d"]

end TemplateData

namespace Template.Form

variable {values : String → Value} {ref : Ref} {rest : Form} {before behind others : List Char}

open TemplateData (given)

/-- A value that may be missing counts as true when it is there and not empty. -/
theorem ite_isTrue_ofOption (value : Option String) :
    (if (Value.ofOption value).isTrue then before ++ ((Value.ofOption value).output ++ behind) else []) =
      (given value).elim [] (fun s => before ++ (s.toList ++ behind)) := by
  cases value with
  | none => rfl
  | some s =>
    have htrue : (Value.ofOption (some s)).isTrue = !s.isEmpty := by
      rw [Value.ofOption, Value.ofString, Value.isTrue, Bool.not_inj_iff, Bool.eq_iff_iff, List.isEmpty_iff,
        String.toList_eq_nil_iff, String.isEmpty_iff]
    rw [htrue, given, Option.filter_some]
    cases s.isEmpty <;> rfl

/-- A value between two texts is written with them when it is there and not empty, and else nothing is. -/
theorem Writes.present {ownLines : Bool} {value : Option String} (hvalue : ref.value values = .ofOption value)
    (h : Writes values rest others) :
    Writes values (Form.present ownLines ref before behind rest)
      ((given value).elim [] (fun s => before ++ (s.toList ++ behind)) ++ others) := by
  have hpresent : Writes values (Form.present ownLines ref before behind rest) _ :=
    Writes.branch (Writes.lead (Writes.value (Writes.lead Writes.done))) h
  rwa [hvalue, List.append_nil, ite_isTrue_ofOption] at hpresent

end Template.Form

/-! ## The template of an article -/

namespace Package

open Template (Form Ref Value)
open Template.Form TemplateData

/-- The author at a reference, with an affiliation. -/
def authorForm (author : String) (rest : Form) : Form :=
  .value (.member author "name") (present false (.member author "affiliation") "\\\\ \\small ".toList [] rest)

/-- The template of an article by its parts. -/
def articleForm : Form :=
  .comment "Built-in article template. Values arrive already escaped.".toList <|
  .text
    (ofLines
      ["\\documentclass[11pt]\x7barticle\x7d",
      "",
      "\\usepackage[utf8]\x7binputenc\x7d",
      "\\usepackage[T1]\x7bfontenc\x7d",
      "\\usepackage\x7bamsmath\x7d",
      "\\usepackage\x7bgraphicx\x7d",
      "\\usepackage[hidelinks]\x7bhyperref\x7d"]) <|
  present true (.field "graphics_path") "\\graphicspath\x7b\x7b".toList (ofLines ["\x7d\x7d"]) <|
  present true (.field "preamble") [] ['\n'] <|
  .text (ofLines [""] ++ "\\title\x7b".toList) <|
  .value (.field "title") <|
  .text (ofLines ["\x7d"] ++ "\\author\x7b".toList) <|
  authorForm "first_author" <|
  .loop false "author" (.field "other_authors") (.text " \\and ".toList (authorForm "author" .done)) <|
  .text (ofLines ["\x7d"] ++ "\\date\x7b".toList) <|
  .value (.field "date") <|
  .text (ofLines ["\x7d", ""] ++ "\\hypersetup\x7bpdftitle=\x7b".toList) <|
  .value (.field "title") <|
  .text "\x7d".toList <|
  present false (.field "short_author") ", pdfauthor=\x7b".toList "\x7d".toList <|
  .text (ofLines ["\x7d", "", "\\begin\x7bdocument\x7d", "", "\\maketitle", ""]) <|
  present true (.field "teaser") (ofLines ["\\begin\x7bfigure\x7d[h]", "\\centering"])
    (ofLines ["", "\\end\x7bfigure\x7d"]) <|
  present true (.field "abstract") (ofLines ["\\begin\x7babstract\x7d"]) (ofLines ["", "\\end\x7babstract\x7d"]) <|
  .branch true (.field "keywords")
    (.text "\\noindent\\textbf\x7bKeywords:\x7d ".toList <| .joined (.field "keywords") ", ".toList <|
      .text (ofLines ["", ""]) .done) <|
  .value (.field "content") <|
  .text (ofLines ["", ""]) <|
  present true (.field "acknowledgments") (ofLines ["\\section*\x7bAcknowledgments\x7d"]) ['\n'] <|
  present true (.field "bibliography") (ofLines ["\\bibliographystyle\x7bplain\x7d"] ++ "\\bibliography\x7b".toList)
    (ofLines ["\x7d"]) <|
  .text (ofLines ["", "\\end\x7bdocument\x7d"]) .done

set_option maxRecDepth 20000 in
/-- The template that comes with the library is the spelling of the form. -/
theorem source_articleForm : articleForm.source = articleTemplate := by
  simp only [articleForm, articleTemplate, authorForm, present, source, source_lead, valueTag, statementTag,
    commentTag, Ref.source, ofLines, List.flatMap_cons, List.flatMap_nil]
  -- Each literal is spelled out, one after another: to compute the characters of a long text takes too long.
  repeat rw [String.toList_ofList]
  rfl

/-- The tags of the form of an article leave its text alone. -/
theorem isSound_articleForm : articleForm.isSound = true := by
  decide +kernel

/-- The form of an article does not nest too deep to be parsed. -/
theorem nesting_articleForm : articleForm.nesting + 3 ≤ Template.Parser.maxDepth := by
  simp only [articleForm, authorForm, present, nesting, nesting_lead]
  decide

/-! ## What is written -/

variable (data : TemplateData)

/-- The text for a value that may be missing, character by character. -/
theorem toList_elim (value : Option String) (text : String → String) :
    (value.elim "" text).toList = value.elim [] (fun s => (text s).toList) := by
  cases value <;> rfl

/-- The lines for a value that may be missing, as a text. -/
theorem ofLines_elim (value : Option String) (lines : String → List String) :
    ofLines (value.elim [] lines) = value.elim [] (fun s => ofLines (lines s)) := by
  cases value <;> rfl

theorem ofLines_cons (line : String) (lines : List String) :
    ofLines (line :: lines) = line.toList ++ '\n' :: ofLines lines := by
  rw [ofLines, List.flatMap_cons, List.append_assoc]
  rfl

theorem ofLines_nil : ofLines [] = [] :=
  rfl

/-- Lines that may be left out, as a text. -/
theorem ofLines_ite (empty : Bool) (lines : List String) :
    ofLines (if empty then [] else lines) = if !empty then ofLines lines else [] := by
  cases empty <;> rfl

theorem ofLines_append (lines others : List String) : ofLines (lines ++ others) = ofLines lines ++ ofLines others :=
  List.flatMap_append

/-- An author is written with the affiliation, if there is one that is not empty. -/
theorem writes_authorForm {values : String → Value} {name : String} {author : Author} {rest : Form} {others : List Char}
    (hauthor : values name = author.toValue) (h : Writes values rest others) :
    Writes values (authorForm name rest) ((authorText author).toList ++ others) := by
  have hname : (Ref.member name "name").value values = .ofString author.name := by
    rw [Ref.value, hauthor]
    exact Value.member_ofMembers _ _
  have haffiliation : (Ref.member name "affiliation").value values = .ofOption author.affiliation := by
    rw [Ref.value, hauthor]
    exact Value.member_ofMembers _ _
  have hwrites : Writes values (authorForm name rest) _ := Writes.string hname (Writes.present haffiliation h)
  rw [authorText, String.toList_append, toList_elim, List.append_assoc]
  simpa only [String.toList_append, List.append_nil] using hwrites

/-- The form of an article writes its lines. -/
theorem writes_articleForm (data : TemplateData) :
    Writes data.toValue.member articleForm (ofLines data.articleLines) := by
  have hmember : ∀ name, data.toValue.member name = _ := Value.member_ofMembers _
  have hwrites : Writes data.toValue.member articleForm _ :=
    .comment <| .text <| .present (hmember _) <| .present (hmember _) <| .text <| .string (hmember _) <| .text <|
      writes_authorForm (hmember _) <| .loop (hmember _) (fun author => .text (writes_authorForm rfl .done)) <|
      .text <| .string (hmember _) <| .text <| .string (hmember _) <| .text <| .present (hmember _) <| .text <|
      .present (hmember _) <| .present (hmember _) <| .branch (.text (.joined (hmember _) (.text .done))) <|
      .string (hmember _) <| .text <| .present (hmember _) <| .present (hmember _) <| .text .done
  have hkeywords : (Ref.value data.toValue.member (.field "keywords")).isTrue = !data.keywords.isEmpty := by
    have hlist : Ref.value data.toValue.member (.field "keywords") = .ofStrings data.keywords := hmember _
    rw [hlist]
    cases data.keywords <;> rfl
  rw [hkeywords] at hwrites
  refine (congrArg (Writes _ _) ?_).mp hwrites
  simp only [articleLines, authorsText, ofLines_append, ofLines_elim, ofLines_ite, ofLines_cons, ofLines_nil,
    String.toList_append, toList_elim, String.toList_join, String.toList_intercalate, String.toList_empty,
    List.flatMap_map, List.append_assoc, List.cons_append, List.nil_append, List.append_nil]

/-- The template that comes with the library is read, and for every record it writes the lines of the article. -/
theorem articleTemplate_text :
    ∃ template, Template.parse? {} articleTemplate = some template ∧
      ∀ data : TemplateData, template.render data.toValue = .ok (ofLines data.articleLines) := by
  obtain ⟨template, hparse, hrender⟩ := parse?_source articleForm isSound_articleForm nesting_articleForm
  rw [source_articleForm] at hparse
  exact ⟨template, hparse, fun data => (hrender data.toValue).trans (writes_articleForm data)⟩

end Package

end Manuscript
