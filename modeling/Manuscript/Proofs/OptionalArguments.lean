import Manuscript.Proofs.ArgumentText
import Manuscript.Proofs.Rendering

/-!
# Brackets at the start of items and rows

An item's command and the end of a row look for an optional argument, and escaping leaves brackets as they are.
Which texts come to stand there is told by the tree alone: `marks` goes through it as the renderer does and keeps
what counts for it. The main text keeps its brackets where no mark of a bracket follows that of an opening, and not
where one does (`brackets_kept_or_taken`).
-/

namespace Manuscript

namespace Tex

/-- The marks of a text between two others that are seen. -/
def enclosedMarks (marks : List Mark) : List Mark :=
  .visible :: marks ++ [.visible]

/-- The marks of a text in the commands of some style classes. -/
def styledMarks (classes : List String) (marks : List Mark) : List Mark :=
  (classes.filterMap styleCommand?).foldl (fun inner _ => enclosedMarks inner) marks

/-- The marks of a text that is seen, unless it is empty. -/
def wholeMarks (s : List Char) : List Mark :=
  if s.isEmpty then [] else [.visible]

variable {shown : Bool} {marks : List Mark} {s t : List Char}

/-! ## Frames -/

/-- An escaped text begins and ends as text. -/
theorem read_escape (s : List Char) : (argumentReader shown).read .text (escape s) = some .text := by
  induction s with
  | nil => rfl
  | cons c rest ih =>
    have hsequences : ∀ e ∈ escapes, (argumentReader shown).read .text e.2 = some .text := by
      cases shown <;> decide
    have hchar : (argumentReader shown).read .text (escapeChar c) = some .text := by
      rcases escapeChar_cases c with ⟨hc, hself⟩ | ⟨e, he, -, hsequence⟩
      · rw [hself]
        refine argumentReader_read_plain (fun d hd => ?_)
        rw [List.mem_singleton.1 hd]
        rintro rfl
        exact absurd hc (by decide)
      · rw [hsequence]
        exact hsequences e he
    rw [escape_cons, (argumentReader shown).read_append_of_eq hchar, ih]

/-- So does an escaped link that opens nothing. -/
theorem read_escapeUrl (h : Tame s) : (argumentReader shown).read .text (escapeUrl s) = some .text := by
  induction s with
  | nil => rfl
  | cons c rest ih =>
    have hchar : (argumentReader shown).read .text
        (if c = '%' then ['\\', '%'] else if c = '#' then ['\\', '#'] else [c]) = some .text := by
      split
      · cases shown <;> rfl
      · split
        · cases shown <;> rfl
        · exact argumentReader_read_plain (fun d hd => List.mem_singleton.1 hd ▸ (h c List.mem_cons_self).2)
    rw [escapeUrl, List.flatMap_cons, (argumentReader shown).read_append_of_eq hchar]
    exact ih (fun d hd => h d (List.mem_cons_of_mem c hd))

/-- So do pieces with commas between them. -/
theorem read_joinWith {l : List (List Char)} (h : ∀ piece ∈ l, (argumentReader shown).read .text piece = some .text) :
    (argumentReader shown).read .text (Text.joinWith [','] l) = some .text := by
  induction l with
  | nil => rfl
  | cons piece rest ih =>
    rw [List.forall_mem_cons] at h
    cases rest with
    | nil =>
      rw [Text.joinWith_singleton]
      exact h.1
    | cons next others =>
      have hcomma : (argumentReader shown).read .text [','] = some .text := argumentReader_read_plain (by decide)
      rw [Text.joinWith_cons_cons, (argumentReader shown).read_append_of_eq h.1,
        (argumentReader shown).read_append_of_eq hcomma]
      exact ih h.2

/-- The beginning of a command. -/
theorem reads_commandName {name : String} (hname : name ∈ commandNames) :
    Reads shown [.visible] ('\\' :: (name.toList ++ ['{'])) := by
  have hall : ∀ shown, ∀ name ∈ commandNames, Reads shown [.visible] ('\\' :: (name.toList ++ ['{'])) := by
    intro shown
    cases shown <;> decide
  exact hall shown name hname

/-- What the formatter writes around other texts, and what it counts for. -/
def phraseMarks : List (List Char × Mark) :=
  [("\\item ".toList, .opening), ("\\newline\n".toList, .visible), ("\x7d".toList, .visible),
    ("\\hline\n\\end\x7btabular\x7d\n".toList, .visible)]

/-- What the formatter writes around other texts is seen as its one mark. -/
theorem shows_phrase {mark : Mark} (h : (s, mark) ∈ phraseMarks) : Shows shown [mark] s := by
  have hall : ∀ shown, ∀ phrase ∈ phraseMarks, Reads shown [phrase.2] phrase.1 ∧
    Reads shown [phrase.2] (Text.trimEnd phrase.1) ∧
      Text.allBlank phrase.1 = [phrase.2].all (· == .space) ∧ phrase.1 ≠ [] := by
    intro shown
    cases shown <;> decide
  obtain ⟨hreads, htrimmed, hblank, hne⟩ := hall shown (s, mark) h
  exact ⟨hreads, htrimmed, hblank, iff_of_false hne (List.cons_ne_nil _ _)⟩

/-- A closing brace is seen. -/
theorem shows_brace : Shows shown [.visible] ['}'] :=
  shows_phrase (by decide)

namespace Shows

/-- A text between two others that are seen has its marks between theirs. -/
theorem enclosed {front back : List Char} (hfront : Reads shown [.visible] front) (h : Reads shown marks s)
    (hback : Shows shown [.visible] back) : Shows shown (enclosedMarks marks) (front ++ (s ++ back)) := by
  rw [← List.append_assoc]
  exact close (hfront.append h) hback

/-- Text that goes on between two others that are seen. -/
theorem visible {front back : List Char} (hfront : Reads shown [.visible] front)
    (h : (argumentReader shown).read .text s = some .text) (hback : Shows shown [.visible] back) :
    Shows shown [.visible] (front ++ (s ++ back)) := by
  rw [← List.append_assoc]
  exact behind (hfront.before h) hback

/-- The argument of a command has its marks between the name and the brace, which are seen. -/
theorem command {name : String} (hname : name ∈ commandNames) (h : Reads shown marks s) :
    Shows shown (enclosedMarks marks) (command name s) := by
  have htext : Tex.command name s = '\\' :: (name.toList ++ ['{']) ++ (s ++ ['}']) := by simp [Tex.command]
  rw [htext]
  exact enclosed (reads_commandName hname) h shows_brace

/-- A command with a text that goes on. -/
theorem call {name : String} (hname : name ∈ commandNames) (h : (argumentReader shown).read .text s = some .text) :
    Shows shown [.visible] (Tex.command name s) := by
  have htext : Tex.command name s = '\\' :: (name.toList ++ ['{']) ++ (s ++ ['}']) := by simp [Tex.command]
  rw [htext]
  exact visible (reads_commandName hname) h shows_brace

/-- Style commands add what is seen around a text, one command for each class that has one. -/
theorem styled (classes : List String) (h : Shows shown marks s) :
    Shows shown (styledMarks classes marks) (styled classes s) := by
  have hnames : ∀ name ∈ classes.filterMap styleCommand?, name ∈ commandNames := by
    have hall : ∀ style ∈ styleCommands, style.2 ∈ commandNames := by decide
    intro name hname
    obtain ⟨style, -, hname⟩ := List.mem_filterMap.1 hname
    obtain ⟨before, after, hsplit, -⟩ := List.lookup_eq_some_iff.1 hname
    exact hall (style, name) (by rw [hsplit]; simp)
  rw [styledMarks, Tex.styled]
  generalize classes.filterMap styleCommand? = names at hnames
  induction names generalizing marks s with
  | nil => exact h
  | cons name rest ih =>
    rw [List.foldl_cons, List.foldl_cons]
    exact ih (command (hnames name List.mem_cons_self) h.reads) (fun n hn => hnames n (List.mem_cons_of_mem name hn))

/-- A paragraph of what trimming leaves. -/
theorem block (h : Shows shown marks s) : Shows shown (trimmedMarks marks) (block (Text.trim s)) := by
  have htrim := h.trim
  have hhead := Text.isBlank_head?_trim s
  generalize Text.trim s = text at htrim hhead
  cases text with
  | nil => exact htrim
  | cons c rest =>
    have hblank : Text.allBlank (c :: rest) = false := by simp [Text.allBlank, hhead c rfl]
    exact htrim.blanks hblank (by decide)

/-- An environment in which text that goes on stands in front of the body, and maybe something to be seen behind it. -/
theorem environment {name : String} {placement : Option String} (hname : name ∈ environmentNames)
    (hplacement : ∀ text ∈ placement, Tame text.toList) {front back : List Char}
    (hfront : (argumentReader shown).read .text front = some .text) (h : Reads shown marks s)
    (hback : back = [] ∨ Shows shown [.visible] back) :
    Shows shown (enclosedMarks marks) (environment name placement (front ++ (s ++ back))) := by
  have hbegin : ∀ name ∈ environmentNames, Reads shown [.visible] (Tex.command "begin" name.toList) := by
    cases shown <;> decide
  have hend : ∀ name ∈ environmentNames, Reads shown [.visible] (Tex.command "end" name.toList) ∧
      Reads shown [.visible] (Text.trimEnd (Tex.command "end" name.toList)) ∧
      Text.allBlank (Tex.command "end" name.toList) = false := by
    cases shown <;> decide
  have hplaced : (argumentReader shown).read .text (placementText placement ++ ['\n']) = some .text := by
    cases placement with
    | none => rfl
    | some text =>
      have hopening : (argumentReader shown).read .text ['['] = some .text := by cases shown <;> rfl
      have htext : placementText (some text) ++ ['\n'] = ['['] ++
        (text.toList ++ "]\n".toList) := by simp [placementText]
      rw [htext, (argumentReader shown).read_append_of_eq hopening,
        (argumentReader shown).read_append_of_eq (argumentReader_read_plain (hplacement text rfl).plain)]
      cases shown <;> rfl
  have hclosing : Shows shown [.visible] ('\n' :: (Tex.command "end" name.toList ++ "\n\n".toList)) := by
    obtain ⟨hreads, htrimmed, hblank⟩ := hend name hname
    have hshows : Shows shown [.visible] (Tex.command "end" name.toList) :=
      ⟨hreads, htrimmed, hblank, iff_of_false (List.cons_ne_nil _ _) (by simp)⟩
    exact (hshows.blanks hblank (by decide)).line
  have htail : Shows shown [.visible] (back ++ '\n' :: (Tex.command "end" name.toList ++ "\n\n".toList)) := by
    rcases hback with rfl | hback
    · exact hclosing
    · exact behind hback.reads hclosing
  have hall := enclosed (((hbegin name hname).before hplaced).before hfront) h htail
  rw [Tex.environment]
  simpa only [List.append_assoc, List.cons_append, List.nil_append] using hall

/-- The body of an environment has its marks between the lines that open and close it. -/
theorem environmentBody {name : String} (hname : name ∈ environmentNames) (h : Reads shown marks s) :
    Shows shown (enclosedMarks marks) (Tex.environment name none s) := by
  have hall : Shows shown (enclosedMarks marks) (Tex.environment name none ([] ++ (s ++ []))) :=
    environment hname (by simp) rfl h (Or.inl rfl)
  rwa [List.append_nil] at hall

end Shows

/-- Texts with ampersands between them. -/
theorem Reads.joinWith {α : Type} {l : List α} {g : α → List Char} {m : α → List Mark}
    (h : ∀ a ∈ l, Reads shown (m a) (g a)) :
    Reads shown (List.intercalate [.visible] (l.map m)) (Text.joinWith " & ".toList (l.map g)) := by
  have hseparator : Reads shown [.visible] " & ".toList := by cases shown <;> decide
  induction l with
  | nil => exact .nil
  | cons a rest ih =>
    have hrest := ih (fun b hb => h b (List.mem_cons_of_mem a hb))
    have ha := h a List.mem_cons_self
    cases rest with
    | nil =>
      rw [List.map_singleton, List.map_singleton, List.intercalate_singleton, Text.joinWith_singleton]
      exact ha
    | cons next others =>
      rw [List.map_cons, List.map_cons, List.intercalate_cons_cons, List.map_cons, List.map_cons,
        Text.joinWith_cons_cons, List.append_assoc]
      exact ha.append (hseparator.append hrest)

end Tex

namespace Formatter

/-! ## Marks of a tree -/

/-- A way to mark nodes further down. -/
abbrev Marking := Located → List Tex.Mark

/-- The marks of the children of a node. -/
def childMarks (marks : Marking) (place : Located) : List Tex.Mark :=
  place.children.flatMap marks

/-- The marks of a spacing command in front of a text, unless the text is empty. -/
def spacedMarks (f : Formatter) (node : Node) (marks : List Tex.Mark) : List Tex.Mark :=
  match f.vspace? node with
  | some command => if marks.isEmpty then marks else command.toList.map Tex.Mark.of ++ .space :: marks
  | none => marks

/-- The marks of a section. -/
def sectionMarks (f : Formatter) (marks : Marking) (place : Located) : List Tex.Mark :=
  place.children.flatMap (fun child =>
    if child.node.name == "heading" then f.spacedMarks child.node
      (Tex.enclosedMarks (childMarks marks child)) else marks child)

/-- The mark of the rule below a header. -/
def ruleMarks (row : Node) : List Tex.Mark :=
  if row.hasClass "header" || row.children.any (fun cell => cell.name == "th") then [.visible] else []

/-- The marks of a row: its cells, between which ampersands are seen, its end, and the rule below it. -/
def rowMarks (marks : Marking) (row : Located) : List Tex.Mark :=
  List.intercalate [.visible] (row.children.map (childMarks marks)) ++ .opening :: ruleMarks row.node

/-- The marks of a table: what is no row first, then the rows. -/
def tableMarks (marks : Marking) (place : Located) : List Tex.Mark :=
  let rows := place.children.filter (fun child => child.node.isRow)
  let others := place.children.filter (fun child => !child.node.isRow)
  Tex.enclosedMarks (others.flatMap marks ++
    if rows.isEmpty then [] else Tex.enclosedMarks (rows.flatMap (rowMarks marks)))

/-- The marks of a node, given those of the nodes below it. Formulas and text that goes in as it is have none here. -/
def nodeMarks (f : Formatter) (marks : Marking) (place : Located) : List Tex.Mark :=
  let node := place.node
  match node.role with
  | .text =>
    Tex.styledMarks node.classes
      (match node.value with
        | some value => value.toList.map Tex.Mark.of
        | none => childMarks marks place)
  | .sectioning => f.sectionMarks marks place
  | .heading | .caption | .figure | .list | .quote => Tex.enclosedMarks (childMarks marks place)
  | .paragraph => Tex.trimmedMarks (childMarks marks place)
  | .span => Tex.styledMarks node.classes (childMarks marks place)
  | .emphasis | .strong => Tex.styledMarks node.classes (Tex.enclosedMarks (childMarks marks place))
  | .code => Tex.styledMarks node.classes [.visible]
  | .link =>
    Tex.styledMarks node.classes
      (if (node.property "href").isSome then Tex.enclosedMarks (childMarks marks place) else childMarks marks place)
  | .reference => Tex.styledMarks node.classes (Tex.wholeMarks (f.renderReference node))
  | .citation => Tex.wholeMarks (renderCitation node)
  | .image => Tex.wholeMarks (renderImage node)
  | .table => tableMarks marks place
  | .item => .opening :: Tex.trimmedMarks (childMarks marks place)
  | .lineBreak => [.visible]
  | .container => childMarks marks place
  | .raw | .math | .equation | .listing => []

/-- The marks of a place that is rendered no more than so many nodes deep. -/
def marks (f : Formatter) : Nat → Marking
  | 0 => fun _ => []
  | fuel + 1 => fun place => f.spacedMarks place.node (f.nodeMarks (f.marks fuel) place)

/-- A formatter that writes items and rows, and escaped text between them: no node goes in unescaped, no figure is
set elsewhere, and what the formatter inserts opens nothing. -/
structure InsertsTame (f : Formatter) : Prop where
  role : ∀ x ∈ f.root.visit, x.node.role ≠ .raw ∧ x.node.role ≠ .math ∧ x.node.role ≠ .equation ∧ x.node.role ≠ .listing
  unclaimed : ∀ x ∈ f.root.visit, f.places.isClaimed x = false
  property : ∀ x ∈ f.root.visit, ∀ key text, x.node.property key = some text → Tex.Tame text.toList
  vspace : ∀ name command, f.vspace.get? name = some command → Tex.Tame command.toList
  prefixes : ∀ kind, Tex.Tame (f.prefixOf kind).toList

/-! ## Rules -/

section Rules

open Tex (Reads Shows Tame argumentReader argumentReader_read_plain)

variable {f : Formatter} {shown : Bool} {render : Renderer} {marks : Marking} {depth : Nat} {x : Located}
  {own : List Tex.Mark} {s : List Char}

/-- The names of nodes open nothing. -/
theorem InsertsTame.id (hf : f.InsertsTame) (hx : x ∈ f.root.visit) {id : String} (hid : x.node.id = some id) :
    Tame id.toList :=
  hf.property x hx "id" id (Option.filter_eq_some_iff.1 hid).1

/-- A label is seen. -/
theorem shows_label (kind : ReferenceKind) {id : String} (hid : Tame id.toList) :
    Shows shown [.visible] (Tex.label kind id) := by
  have hfront : Reads shown [.visible] ("\\label\x7b".toList ++ (kind.labelPrefix.toList ++ [':'])) := by
    cases shown <;> cases kind <;> decide
  have htext : Tex.label kind id = "\\label\x7b".toList ++ (kind.labelPrefix.toList ++ [':']) ++
      (id.toList ++ ['\x7d']) := by
    simp [Tex.label, Tex.command, Tex.labelName]
  rw [htext]
  exact .visible hfront (argumentReader_read_plain hid.plain) Tex.shows_brace

/-- The line with a label is seen behind a text, if there is one. -/
theorem exists_behindLabel (hid : ∀ id, x.node.id = some id → Tame id.toList) (kind : ReferenceKind) (s : List Char) :
    ∃ back, withLabel x.node kind s = s ++ back ∧ (back = [] ∨ Shows shown [.visible] back) := by
  rw [withLabel, label?]
  cases hx : x.node.id with
  | none => exact ⟨[], (List.append_nil s).symm, Or.inl rfl⟩
  | some id => exact ⟨'\n' :: Tex.label kind id, rfl, Or.inr (shows_label kind (hid id hx)).line⟩

/-- A spacing command is seen in front of a text, if there is one. -/
theorem shows_spaced (hf : f.InsertsTame) (h : Shows shown own s) :
    Shows shown (f.spacedMarks x.node own) (f.spaced x.node s) := by
  have hempty : own.isEmpty = s.isEmpty := by rw [Bool.eq_iff_iff, List.isEmpty_iff, List.isEmpty_iff, h.empty]
  unfold spaced spacedMarks
  cases hcommand : f.vspace? x.node with
  | none => exact h
  | some command =>
    simp only [hempty]
    split
    · exact h
    · have hbreak : '\n' ≠ '\\' := by decide
      exact (Shows.plain (hf.vspace _ _ hcommand).plain).append (.append (.single hbreak) h)

/-- Children show their marks in turn. -/
theorem shows_renderChildren (h : ∀ c ∈ x.children, Shows shown (marks c) (render depth c)) :
    Shows shown (childMarks marks x) (renderChildren render depth x) :=
  .flatMap h

/-- The placement of a float opens nothing, also when it is the usual one. -/
theorem tame_placement (h : ∀ text, x.node.property "placement" = some text → Tame text.toList) :
    ∀ text ∈ some ((x.node.property "placement").getD "htbp"), Tame text.toList := by
  rintro text htext
  obtain rfl := Option.some.inj htext
  cases hplacement : x.node.property "placement" with
  | none => decide
  | some placement => exact h placement hplacement

/-- A figure shows the marks of its children inside its environment. -/
theorem shows_renderFigure (hf : f.InsertsTame) (hx : x ∈ f.root.visit)
    (h : ∀ c ∈ x.children, Shows shown (marks c) (render depth c)) :
    Shows shown (Tex.enclosedMarks (childMarks marks x)) (renderFigure render depth x) := by
  obtain ⟨back, hlabel, hback⟩ :
      ∃ back, withLabel x.node .figure ("\\centering\n".toList ++ Text.trim (renderChildren render depth x)) =
      "\\centering\n".toList ++ Text.trim (renderChildren render depth x) ++ back ∧
      (back = [] ∨ Shows shown [.visible] back) :=
    exists_behindLabel (fun _ => hf.id hx) .figure _
  unfold renderFigure
  dsimp only
  rw [hlabel, List.append_assoc]
  refine .environment ?_ (tame_placement (hf.property x hx "placement")) ?_ (shows_renderChildren h).reads_trim hback
  · split <;> decide
  · cases shown <;> rfl

/-- A heading shows the marks of its children inside its command. -/
theorem shows_renderHeading {level : Nat} {sectionId : Option String} (hid : ∀ id, x.node.id = some id → Tame id.toList)
    (hsection : ∀ id, sectionId = some id → Tame id.toList) (h : ∀ c ∈ x.children, Shows shown (marks c) (render 0 c)) :
    Shows shown (Tex.enclosedMarks (childMarks marks x)) (renderHeading render level sectionId x) := by
  have hlabel : ∀ label, (label? x.node .sectioning).or (sectionId.map (Tex.label .sectioning)) = some label →
      Shows shown [.visible] label := by
    intro label hlabel
    rcases Option.or_eq_some_iff.1 hlabel with hown | ⟨-, hsome⟩
    · obtain ⟨id, hx, rfl⟩ := Option.map_eq_some_iff.1 hown
      exact shows_label .sectioning (hid id hx)
    · obtain ⟨id, hx, rfl⟩ := Option.map_eq_some_iff.1 hsome
      exact shows_label .sectioning (hsection id hx)
  have hcommand : Shows shown (Tex.enclosedMarks (childMarks marks x))
      (Tex.command (Tex.sectionCommand level ++ if x.node.hasClass "unnumbered" then "*" else "")
        (Text.trim (renderChildren render 0 x))) := by
    refine .command (Markup.sectionCommand_mem _ _ ?_) (shows_renderChildren h).reads_trim
    split
    · exact Or.inr rfl
    · exact Or.inl rfl
  unfold renderHeading
  dsimp only
  cases hsome : (label? x.node .sectioning).or (sectionId.map (Tex.label .sectioning)) with
  | none => exact hcommand.blanks rfl (by decide)
  | some label =>
    have hline := (hlabel label hsome).blanks (t := ['\n'] ++ ['\n']) (hlabel label hsome).blank (by decide)
    have hall : Shows shown (Tex.enclosedMarks (childMarks marks x)) _ := Shows.close_visible hcommand.reads hline.line
    simpa only [List.append_assoc] using hall

/-- A section shows the marks of its children, one after another. -/
theorem shows_renderSection (hf : f.InsertsTame) (hx : x ∈ f.root.visit)
    (h : ∀ y ∈ f.root.visit, ∀ d, Shows shown (marks y) (render d y)) :
    Shows shown (f.sectionMarks marks x) (f.renderSection render depth x) := by
  refine .flatMap (fun c hc => ?_)
  have hcmem := Node.child_mem_visit hx hc
  rw [renderSectionChild]
  split
  · have hheading : Shows shown (Tex.enclosedMarks (childMarks marks c))
        (renderHeading render ((headingLevel? c.node).getD (depth + 1)) x.node.id c) :=
      shows_renderHeading (fun _ => hf.id hcmem) (fun _ => hf.id hx) (fun d hd => h d (Node.child_mem_visit hcmem hd) 0)
    have hne : renderHeading render ((headingLevel? c.node).getD (depth + 1)) x.node.id c ≠ [] := List.cons_ne_nil _ _
    have hspaced := shows_spaced (x := c) hf hheading
    simpa only [spaced, List.isEmpty_eq_false_iff.2 hne, Bool.false_eq_true, if_false] using hspaced
  · exact h c hcmem _

/-- A link shows the marks of its children, inside a command when it has an address. -/
theorem shows_renderLink (hf : f.InsertsTame) (hx : x ∈ f.root.visit)
    (h : ∀ c ∈ x.children, Shows shown (marks c) (render depth c)) :
    Shows shown (if (x.node.property "href").isSome then Tex.enclosedMarks (childMarks marks x) else childMarks marks x)
      (renderLink render depth x) := by
  have htext := shows_renderChildren h
  rw [renderLink]
  cases hhref : x.node.property "href" with
  | none => exact htext
  | some href =>
    have hurl : (argumentReader shown).read .text (Tex.escapeUrl href.toList) = some .text :=
      Tex.read_escapeUrl (hf.property x hx "href" href hhref)
    simp only [Option.isSome_some, if_true]
    split
    · rename_i hblank
      have hname : "url" ∈ Tex.commandNames := by decide
      have hopening : Reads shown [.visible] ("\\url\x7b".toList ++ Tex.escapeUrl href.toList) :=
        (Tex.reads_commandName hname).before hurl
      exact .enclosed hopening (htext.reads.of_allBlank hblank) Tex.shows_brace
    · have hopening : Reads shown [.visible] (Tex.command "href" (Tex.escapeUrl href.toList) ++ ['{']) :=
        (Shows.call (by decide) hurl).reads.before (by cases shown <;> rfl)
      have hall := Shows.enclosed hopening htext.reads Tex.shows_brace
      rwa [List.append_assoc] at hall

/-- A text that is seen unless it is empty has one mark or none. -/
theorem shows_wholeMarks (h : s ≠ [] → Shows shown [.visible] s) : Shows shown (Tex.wholeMarks s) s := by
  rw [Tex.wholeMarks]
  split
  · rename_i hempty
    rw [List.isEmpty_iff.1 hempty]
    exact .nil
  · rename_i hne
    exact h (mt List.isEmpty_iff.2 hne)

/-- A reference is seen, if it is written at all. -/
theorem shows_renderReference (hf : f.InsertsTame) (hx : x ∈ f.root.visit) :
    Shows shown (Tex.wholeMarks (f.renderReference x.node)) (f.renderReference x.node) := by
  refine shows_wholeMarks (fun hne => ?_)
  rw [renderReference] at hne ⊢
  split
  · rename_i hnone
    rw [hnone] at hne
    exact absurd rfl hne
  · rename_i target htarget
    have hplain : ∀ c ∈ target.toList, c ≠ '\\' :=
      (hf.property x hx "target" target (Option.filter_eq_some_iff.1 htarget).1).plain
    split
    · rename_i kind _
      have hname : ∀ c ∈ Tex.labelName kind target, c ≠ '\\' := by
        have hspace : ∀ c ∈ kind.labelPrefix.toList ++ [':'], c ≠ '\\' := by cases kind <;> decide
        intro c hc
        rw [Tex.labelName, ← List.singleton_append, ← List.append_assoc, List.mem_append] at hc
        exact hc.elim (hspace c) (hplain c)
      have hcall : Shows shown [.visible] (Tex.command "ref" (Tex.labelName kind target)) :=
        .call (by decide) (argumentReader_read_plain hname)
      have htilde : Shows shown [.visible] ('~' :: Tex.command "ref" (Tex.labelName kind target)) :=
        .tame (s := ['~']) (by decide) hcall
      exact .tame (hf.prefixes kind) htilde
    · exact .call (by decide) (argumentReader_read_plain hplain)

/-- A citation is seen, if it is written at all. -/
theorem shows_renderCitation (hf : f.InsertsTame) (hx : x ∈ f.root.visit) :
    Shows shown (Tex.wholeMarks (renderCitation x.node)) (renderCitation x.node) := by
  have hsource : Tame (((x.node.property "keys").or (x.node.property "target")).getD "").toList := by
    cases hkeys : (x.node.property "keys").or (x.node.property "target") with
    | none => decide
    | some source =>
      rcases Option.or_eq_some_iff.1 hkeys with hsome | ⟨-, hsome⟩
      · exact hf.property x hx _ _ hsome
      · exact hf.property x hx _ _ hsome
  refine shows_wholeMarks (fun hne => ?_)
  unfold renderCitation at hne ⊢
  dsimp only at hne ⊢
  split
  · rename_i hempty
    exact absurd (if_pos hempty) hne
  · refine .call (by decide) (Tex.read_joinWith (fun key hkey => argumentReader_read_plain (fun c hc => ?_)))
    exact (hsource c (Text.mem_of_mem_splitWhere (List.mem_of_mem_filter hkey) c hc)).2

/-- An image is seen, if it is written at all. -/
theorem shows_renderImage (hf : f.InsertsTame) (hx : x ∈ f.root.visit) :
    Shows shown (Tex.wholeMarks (renderImage x.node)) (renderImage x.node) := by
  refine shows_wholeMarks (fun hne => ?_)
  rw [renderImage] at hne ⊢
  split
  · rename_i hnone
    rw [hnone] at hne
    exact absurd rfl hne
  · rename_i source hsource
    have hplain : ∀ c ∈ source.toList, c ≠ '\\' := by
      rcases Option.or_eq_some_iff.1 hsource with hsome | ⟨-, hsome⟩
      · exact (hf.property x hx _ _ hsome).plain
      · exact (hf.property x hx _ _ hsome).plain
    have hwidth : (argumentReader shown).read .text ((x.node.property "width").getD "\\linewidth").toList =
        some .text := by
      cases hw : x.node.property "width" with
      | none => cases shown <;> rfl
      | some width => exact argumentReader_read_plain (hf.property x hx "width" width hw).plain
    have hopening : Reads shown [.visible] "\\includegraphics[width=".toList := by cases shown <;> decide
    have hmiddle : (argumentReader shown).read .text "]\x7b".toList = some .text :=
      argumentReader_read_plain (by decide)
    have hend : Shows shown [.visible] "\x7d\n".toList := Tex.shows_brace.blanks rfl (by decide)
    have hall := Shows.visible ((hopening.before hwidth).before hmiddle) (argumentReader_read_plain hplain) hend
    simpa only [List.append_assoc] using hall

/-- A row shows the marks of its cells with the ampersands between them, and then the end of the row. -/
theorem reads_renderRow (h : ∀ c ∈ x.children, ∀ d ∈ c.children, Shows shown (marks d) (render depth d)) :
    Reads shown (rowMarks marks x) (renderRow render depth x) := by
  have hcells := Reads.joinWith (fun c hc => (shows_renderChildren (h c hc)).reads_trim)
  have hend : Reads shown [.opening] " \\\\\n".toList := by cases shown <;> decide
  have hrule : Reads shown [.visible] "\\hline\n".toList := by cases shown <;> decide
  unfold renderRow rowMarks
  dsimp only
  have hbelow : Reads shown (ruleMarks x.node)
      (if x.node.hasClass "header" ||
        x.node.children.any (fun cell => cell.name == "th") then "\\hline\n".toList else []) := by
    unfold ruleMarks
    split
    · exact hrule
    · exact .nil
  exact Reads.append hcells (Reads.append hend hbelow)

/-- Rows show their marks inside the environment. -/
theorem shows_renderTabular {rows : List Located}
    (h : ∀ row ∈ rows, ∀ c ∈ row.children, ∀ d ∈ c.children, Shows shown (marks d) (render depth d)) :
    Shows shown (Tex.enclosedMarks (rows.flatMap (rowMarks marks))) (renderTabular render depth rows) := by
  have hopening : Reads shown [.visible] "\\begin\x7btabular\x7d\x7b".toList := by cases shown <;> decide
  have hcolumns : ∀ n, (argumentReader shown).read .text (List.replicate n 'l') = some .text := by
    intro n
    refine argumentReader_read_plain (fun c hc => ?_)
    rw [List.eq_of_mem_replicate hc]
    decide
  have hrule : (argumentReader shown).read .text "\x7d\n\\hline\n".toList = some .text := by cases shown <;> rfl
  have hend : Shows shown [.visible] "\\hline\n\\end\x7btabular\x7d\n".toList := Tex.shows_phrase (by decide)
  have hrows : Reads shown (rows.flatMap (rowMarks marks)) (rows.flatMap (renderRow render depth)) := by
    induction rows with
    | nil => exact .nil
    | cons row rest ih =>
      rw [List.forall_mem_cons] at h
      rw [List.flatMap_cons, List.flatMap_cons]
      exact (reads_renderRow h.1).append (ih h.2)
  have hall := fun n => Shows.enclosed ((hopening.before (hcolumns n)).before hrule) hrows hend
  unfold renderTabular
  simpa only [List.append_assoc] using hall _

/-- A table shows the marks of what is no row, and then those of its rows. -/
theorem shows_renderTable (hf : f.InsertsTame) (hx : x ∈ f.root.visit)
    (h : ∀ y ∈ f.root.visit, ∀ d, Shows shown (marks y) (render d y)) :
    Shows shown (tableMarks marks x) (renderTable render depth x) := by
  have hchild : ∀ p, ∀ c ∈ x.children.filter p, c ∈ f.root.visit :=
    fun p c hc => Node.child_mem_visit hx (List.mem_of_mem_filter hc)
  have hothers := Shows.flatMap (fun c hc => h c (hchild (fun child => !child.node.isRow) c hc) depth)
  have hrows : Shows shown (if (x.children.filter (fun child => child.node.isRow)).isEmpty then []
        else Tex.enclosedMarks ((x.children.filter (fun child => child.node.isRow)).flatMap (rowMarks marks)))
      (if (x.children.filter (fun child => child.node.isRow)).isEmpty then []
        else renderTabular render depth (x.children.filter (fun child => child.node.isRow))) := by
    split
    · exact .nil
    · refine shows_renderTabular (fun row hrow c hc d hd => h d ?_ depth)
      exact Node.child_mem_visit (Node.child_mem_visit (hchild _ row hrow) hc) hd
  have hrest := hothers.append hrows
  have hfront : (argumentReader shown).read .text "\\centering\n".toList = some .text := by cases shown <;> rfl
  have hcentering : (argumentReader shown).read .text "\\centering".toList = some .text := by cases shown <;> rfl
  unfold renderTable tableMarks
  dsimp only
  generalize (x.children.filter (fun child => !child.node.isRow)).flatMap (render depth) ++ _ = rest at hrest ⊢
  obtain ⟨back, hlabel, hback⟩ : ∃ back, withLabel x.node .table (Text.trimEnd ("\\centering\n".toList ++ rest)) =
      Text.trimEnd ("\\centering\n".toList ++ rest) ++ back ∧ (back = [] ∨ Shows shown [.visible] back) :=
    exists_behindLabel (fun _ => hf.id hx) .table _
  rw [hlabel]
  cases hblank : Text.allBlank rest with
  | false =>
    rw [Text.trimEnd_append hblank, List.append_assoc]
    exact .environment (by decide) (tame_placement (hf.property x hx "placement")) hfront hrest.trimmed hback
  | true =>
    have htrim : Text.trimEnd ("\\centering\n".toList ++ rest) = "\\centering".toList := by
      rw [Text.trimEnd_append_of_allBlank hblank]
      decide
    rw [htrim]
    exact .environment (by decide) (tame_placement (hf.property x hx "placement")) hcentering
      (hrest.reads.of_allBlank hblank) hback

/-- What a node becomes has its marks. -/
theorem shows_renderNode (hf : f.InsertsTame) (hx : x ∈ f.root.visit)
    (h : ∀ y ∈ f.root.visit, ∀ d, Shows shown (marks y) (render d y)) :
    Shows shown (f.nodeMarks marks x) (f.renderNode render depth x) := by
  have hbelow : ∀ d, ∀ c ∈ x.children, Shows shown (marks c) (render d c) :=
    fun d c hc => h c (Node.child_mem_visit hx hc) d
  have hchildren := shows_renderChildren (hbelow depth)
  cases hrole : x.node.role with
  | raw => exact absurd hrole (hf.role x hx).1
  | math => exact absurd hrole (hf.role x hx).2.1
  | equation => exact absurd hrole (hf.role x hx).2.2.1
  | listing => exact absurd hrole (hf.role x hx).2.2.2
  | text =>
    simp only [renderNode, nodeMarks, hrole]
    refine .styled _ ?_
    rw [renderText]
    cases x.node.value with
    | none => exact hchildren
    | some value => exact .escape _
  | sectioning =>
    simp only [renderNode, nodeMarks, hrole]
    exact shows_renderSection hf hx h
  | heading =>
    simp only [renderNode, nodeMarks, hrole]
    exact shows_renderHeading (fun _ => hf.id hx) (by simp) (hbelow 0)
  | paragraph =>
    simp only [renderNode, nodeMarks, hrole]
    exact hchildren.block
  | span =>
    simp only [renderNode, nodeMarks, hrole]
    exact hchildren.styled _
  | emphasis | strong =>
    simp only [renderNode, nodeMarks, hrole]
    exact (Shows.command (by decide) hchildren.reads).styled _
  | code =>
    simp only [renderNode, nodeMarks, hrole]
    exact (Shows.call (by decide) (Tex.read_escape _)).styled _
  | link =>
    simp only [renderNode, nodeMarks, hrole]
    exact (shows_renderLink hf hx (hbelow depth)).styled _
  | reference =>
    simp only [renderNode, nodeMarks, hrole]
    exact (shows_renderReference hf hx).styled _
  | citation =>
    simp only [renderNode, nodeMarks, hrole]
    exact shows_renderCitation hf hx
  | figure =>
    simp only [renderNode, nodeMarks, hrole, hf.unclaimed x hx, Bool.false_eq_true, if_false]
    exact shows_renderFigure hf hx (hbelow depth)
  | image =>
    simp only [renderNode, nodeMarks, hrole]
    exact shows_renderImage hf hx
  | caption =>
    simp only [renderNode, nodeMarks, hrole]
    exact (Shows.command (by decide) hchildren.reads_trim).blanks rfl (by decide)
  | table =>
    simp only [renderNode, nodeMarks, hrole]
    exact shows_renderTable hf hx h
  | list =>
    simp only [renderNode, nodeMarks, hrole, renderList]
    refine .environmentBody ?_ hchildren.trimmed
    split <;> decide
  | item =>
    simp only [renderNode, nodeMarks, hrole]
    have hitem : Shows shown [.opening] "\\item ".toList := Tex.shows_phrase (by decide)
    have hblank : Text.allBlank ("\\item ".toList ++ Text.trim (renderChildren render depth x)) = false := rfl
    have hall := (hitem.append hchildren.trim).blanks (t := ['\n']) hblank (by decide)
    rwa [List.append_assoc] at hall
  | quote =>
    simp only [renderNode, nodeMarks, hrole]
    exact .environmentBody (by decide) hchildren.reads_trim
  | lineBreak =>
    simp only [renderNode, nodeMarks, hrole]
    exact Tex.shows_phrase (by decide)
  | container =>
    simp only [renderNode, nodeMarks, hrole]
    exact hchildren

end Rules

/-! ## Documents -/

variable {f : Formatter}

/-- What is rendered has the marks of the tree. The induction is on the depth. -/
theorem shows_render (hf : f.InsertsTame) (shown : Bool) (n : Nat) :
    ∀ x ∈ f.root.visit, ∀ depth, Tex.Shows shown (f.marks n x) (f.render n depth x) := by
  induction n with
  | zero => exact fun _ _ _ => .nil
  | succ n ih =>
    intro x hx depth
    exact shows_spaced hf (shows_renderNode hf hx ih)

end Formatter

/-- Where brackets are taken for optional arguments. In a document without raw nodes, formulas, equations and
listings, in which no property, spacing or word in front of references has an opening bracket or a backslash, a
bracket is the first thing to be seen behind an item or the end of a row of the main text when the marks of the tree
have one there with only blanks between the two. None is when they have something else there, of which markers are
no part. Without markers in its texts a document is of one kind or the other. -/
theorem brackets_kept_or_taken (root : Node) (options : Options) (citations : Option Citations)
    (hroles : ∀ x ∈ root.visit, x.node.role ≠ .raw ∧ x.node.role ≠ .math ∧ x.node.role ≠ .equation ∧
      x.node.role ≠ .listing)
    (hproperties : ∀ x ∈ root.visit, ∀ e ∈ x.node.properties.entries, Tex.Tame e.2.toList)
    (hvspace : ∀ e ∈ options.vspace.entries, Tex.Tame e.2.toList)
    (hprefixes : ∀ e ∈ options.prefixes.entries, Tex.Tame e.2.toList) :
    let f := Formatter.ofDocument root options citations
    let marks := f.mainChildren.flatMap (f.marks f.fuel)
    (¬Tex.Opened false marks → Tex.KeepsBrackets f.content) ∧
    (Tex.Opened true marks → ¬Tex.KeepsBrackets f.content) := by
  intro f marks
  have hdirectives : ∀ x ∈ root.visit, x.node.directive? = none := fun x hx => Node.directive?_of_role (hroles x hx).1
  have hf : f.InsertsTame :=
    { role := hroles
      unclaimed := fun x _ => Places.isClaimed_eq_false hdirectives x
      property := fun x hx _ _ htext => hproperties x hx _ (Dictionary.mem_of_find? htext)
      vspace := fun _ _ hcommand => hvspace _ (Dictionary.mem_of_find? hcommand)
      prefixes := Options.prefixOf_of_forall (P := fun text => Tex.Tame text.toList) hprefixes
        (fun kind => by cases kind <;> decide) }
  have hshows : ∀ shown, Tex.Shows shown marks (f.mainChildren.flatMap (f.render f.fuel 0)) :=
    fun shown =>
      .flatMap (fun c hc => Formatter.shows_render hf shown _ c (Formatter.mem_visit_of_mem_mainChildren hc) 0)
  exact Tex.keepsBrackets_tidy (fun shown => (hshows shown).reads)

/-- A list and a table with brackets in styles, behind other text, in a cell that is not the first, and in a heading
behind an empty item. -/
def bracketSheet : Node where
  name := "article"
  content := .children
    [{ name := "ul"
       content := .children
        [{ name := "item", content := .children [.text " ", { name := "em", content := .children [.text "[a]"] }] },
          { name := "item", content := .children [.text "b [c]"] },
          { name := "item" }] },
      { name := "heading", content := .children [.text "[d]"] },
      { name := "table"
        content := .children
          [{ name := "row", content := .children [{ name := "cell", content := .children [.text "e"] }] },
            { name := "row", content :=
              .children [{ name := "cell" }, { name := "cell", content := .children [.text "[f]"] }] }] }]

/-- In the sheet no bracket is the first thing to be seen of an item or a row, and all of them are kept. -/
theorem bracketSheet_keeps : Tex.KeepsBrackets (Formatter.ofDocument bracketSheet {} none).content ∧
    (Formatter.ofDocument bracketSheet {} none).content =
      ("\\begin\x7bitemize\x7d\n\\item \\emph\x7b[a]\x7d\n\\item b [c]\n\\item\n\\end\x7bitemize\x7d\n\n".toList ++
        "\\section\x7b[d]\x7d\n\n\\begin\x7btable\x7d[htbp]\n\\centering\n\\begin\x7btabular\x7d\x7bll\x7d\n\\hline\n".toList ++
          "e \\\\\n & [f] \\\\\n\\hline\n\\end\x7btabular\x7d\n\\end\x7btable\x7d".toList) := by
  have hboth := brackets_kept_or_taken bracketSheet {} none (by decide +kernel) (by decide +kernel) (by decide)
    (by decide)
  exact ⟨hboth.1 (by decide +kernel), by decide +kernel⟩

/-- A list of items with a text each. -/
def listOf (texts : List String) : Node where
  name := "ul"
  content := .children (texts.map (fun text => { name := "item", content := .children [.text text] }))

/-- A table of rows with one cell each. -/
def tableOf (texts : List String) : Node where
  name := "table"
  content := .children (texts.map (fun text =>
    { name := "row", content := .children [{ name := "cell", content := .children [.text text] }] }))

/-- A bracket at the start of an item becomes its label, and one at the start of a row the space below the row
before it. -/
theorem bracket_taken_as_argument :
    let articleOf := fun node => ({ name := "article", content := .children [node] } : Node)
    let items := (Formatter.ofDocument (articleOf (listOf ["[1] Knuth"])) {} none).content
    let rows := (Formatter.ofDocument (articleOf (tableOf ["a", "[2pt]"])) {} none).content
    (items = "\\begin\x7bitemize\x7d\n\\item [1] Knuth\n\\end\x7bitemize\x7d".toList ∧ ¬Tex.KeepsBrackets items) ∧
      rows =
        ("\\begin\x7btable\x7d[htbp]\n\\centering\n\\begin\x7btabular\x7d\x7bl\x7d\n\\hline\na \\\\\n[2pt] \\\\\n\\hline\n".toList ++
        "\\end\x7btabular\x7d\n\\end\x7btable\x7d".toList) ∧ ¬Tex.KeepsBrackets rows := by
  intro articleOf items rows
  refine ⟨⟨by decide +kernel, fun h => ?_⟩, by decide +kernel, fun h => ?_⟩
  · exact h "\\begin\x7bitemize\x7d\n".toList " [1] Knuth\n\\end\x7bitemize\x7d".toList "\\item".toList (by decide)
      (by decide +kernel) (by decide)
  · exact h "\\begin\x7btable\x7d[htbp]\n\\centering\n\\begin\x7btabular\x7d\x7bl\x7d\n\\hline\na ".toList
      "\n[2pt] \\\\\n\\hline\n\\end\x7btabular\x7d\n\\end\x7btable\x7d".toList "\\\\".toList (by decide)
        (by decide +kernel) (by decide)

end Manuscript
