import Manuscript.Tex.Escape
import Manuscript.Tex.Markup
import Manuscript.Tex.Tidy

/-!
# The shape of generated text

`Markup` is a grammar of the texts that a formatter writes. Text that comes from the document is escaped or, where
it goes in as it is, of a given class; everything else is one of the commands, environments, labels and phrases
listed here. Besides its text a derivation has the labels that the text sets, in order. A property of generated text
is proved by going through the grammar, and need not look at the rules of a formatter.

Trimming may take away the blank that ends a command, so a text is either sealed or loose: after a sealed text
anything may follow, after a loose one a character that ends a command.
-/

namespace Manuscript

/-- A label: the kind of what it is set at, and the id. -/
abbrev Label := ReferenceKind × String

namespace Tex

/-- The commands that a formatter writes around generated text. -/
def commandNames : List String :=
  ["emph", "textbf", "underline", "textsc", "texttt", "caption", "url", "href", "ref", "cite", "section", "subsection",
    "subsubsection", "paragraph", "subparagraph", "section*", "subsection*", "subsubsection*", "paragraph*",
      "subparagraph*"]

/-- The environments that a formatter writes. -/
def environmentNames : List String :=
  ["figure", "figure*", "table", "tabular", "equation", "equation*", "enumerate", "itemize", "quote", "verbatim"]

/-- The other pieces of LaTeX that a formatter writes. -/
def phrases : List (List Char) :=
  ["\\centering\n".toList, "\\item ".toList, "\\newline\n".toList, "\\hline\n".toList, "\\\\\n".toList, "& ".toList,
    "$".toList, "\\includegraphics[".toList, "\\linewidth]".toList]

/-- Characters after which a command has ended. -/
def seals : List Char :=
  ['\n', ' ', ',', '~', '$', ']']

end Tex

/-- Whether anything may follow a text, or only a character that ends a command. -/
inductive Ending where
  | sealed
  | loose
  deriving DecidableEq

/-- The texts that a formatter writes, with the labels that they set: `Plain` holds of the texts that go in
unescaped, `Named` of the ids that are set as labels. -/
inductive Markup (Plain : List Char → Prop) (Named : String → Prop) : Ending → List Char → List Label → Prop where
  | nil : Markup Plain Named .sealed [] []
  | append {e : Ending} {s t : List Char} {l k : List Label} :
      Markup Plain Named .sealed s l → Markup Plain Named e t k → Markup Plain Named e (s ++ t) (l ++ k)
  | loosen {s : List Char} {l : List Label} : Markup Plain Named .sealed s l → Markup Plain Named .loose s l
  | close {s : List Char} {l : List Label} {c : Char} :
      c ∈ Tex.seals → Markup Plain Named .loose s l → Markup Plain Named .sealed (s ++ [c]) l
  | escape (s : List Char) : Markup Plain Named .sealed (Tex.escape s) []
  | phrase {p : List Char} : p ∈ Tex.phrases → Markup Plain Named .sealed p []
  | plain {s : List Char} : Plain s → Markup Plain Named .loose s []
  | verbatim {s trail : List Char} :
      Plain (s ++ trail) → Text.allBlank trail = true → Markup Plain Named .loose (Tex.verbatim s) []
  | group {s : List Char} {l : List Label} :
      Markup Plain Named .loose s l → Markup Plain Named .sealed ('{' :: (s ++ ['}'])) l
  | command {name : String} {s : List Char} {l : List Label} :
      name ∈ Tex.commandNames → Markup Plain Named .loose s l → Markup Plain Named .sealed (Tex.command name s) l
  | environment {name : String} {s : List Char} {l : List Label} :
      name ∈ Tex.environmentNames → Markup Plain Named .sealed s l →
        Markup Plain Named .sealed (Tex.command "begin" name.toList ++ (s ++ Tex.command "end" name.toList)) l
  | label (kind : ReferenceKind) {id : String} : Named id → Markup Plain Named .sealed (Tex.label kind id) [(kind, id)]
  | trimStart {s : List Char} {l : List Label} : Markup Plain Named .loose s l →
    Markup Plain Named .loose (Text.trimStart s) l
  | trimEnd {s : List Char} {l : List Label} : Markup Plain Named .loose s l →
    Markup Plain Named .loose (Text.trimEnd s) l
  | tidy {s : List Char} {l : List Label} : Markup Plain Named .sealed s l → Markup Plain Named .loose (Tex.tidy s) l
  | drop {s : List Char} {l : List Label} :
      Text.allBlank s = true → Markup Plain Named .loose s l → Markup Plain Named .sealed [] l

namespace Markup

variable {Plain : List Char → Prop} {Named : String → Prop} {e : Ending} {s t : List Char} {l k : List Label}

/-- A text without labels in front changes no label. -/
theorem after (hs : Markup Plain Named .sealed s []) (ht : Markup Plain Named e t k) :
    Markup Plain Named e (s ++ t) k :=
  append hs ht

/-- A text without labels behind changes no label. -/
theorem before (hs : Markup Plain Named .sealed s l) (ht : Markup Plain Named e t []) :
    Markup Plain Named e (s ++ t) l := by
  have h := append hs ht
  rwa [List.append_nil] at h

/-- A text that escaping leaves as it is. -/
theorem of_escape (h : Tex.escape s = s) : Markup Plain Named .sealed s [] := by
  rw [← h]
  exact escape s

/-- Trimming leaves the labels of a text. -/
theorem trim (h : Markup Plain Named .loose s l) : Markup Plain Named .loose (Text.trim s) l :=
  trimEnd (trimStart h)

/-- A line end seals a text. -/
theorem lineEnd (hs : Markup Plain Named .loose s l) : Markup Plain Named .sealed (s ++ ['\n']) l :=
  close (by decide) hs

/-- After an end of line anything may follow. -/
theorem line (hs : Markup Plain Named .loose s l) (ht : Markup Plain Named e t k) :
    Markup Plain Named e (s ++ '\n' :: t) (l ++ k) := by
  have h := append (lineEnd hs) ht
  rwa [List.append_assoc] at h

/-- A text that is left out when it is empty. -/
theorem of_isEmpty (h : Markup Plain Named .loose s l) (hs : s.isEmpty = true) : Markup Plain Named .sealed [] l := by
  rw [List.isEmpty_iff] at hs
  subst hs
  exact drop rfl h

theorem flatMap {α : Type} {f : α → List Char} {g : α → List Label} {xs : List α}
    (h : ∀ x ∈ xs, Markup Plain Named .sealed (f x) (g x)) :
    Markup Plain Named .sealed (xs.flatMap f) (xs.flatMap g) := by
  induction xs with
  | nil => exact nil
  | cons x rest ih =>
    rw [List.flatMap_cons, List.flatMap_cons]
    exact append (h x List.mem_cons_self) (ih (fun y hy => h y (List.mem_cons_of_mem x hy)))

/-- A block is sealed and has the labels of its text. -/
theorem block (h : Markup Plain Named .loose s l) : Markup Plain Named .sealed (Tex.block s) l := by
  rw [Tex.block]
  split
  · rename_i hs
    exact of_isEmpty h hs
  · have := line h (of_escape (s := ['\n']) rfl)
    rwa [List.append_nil] at this

/-- Style commands go around a text one after another: what each of them keeps, all of them keep. -/
theorem styled_of_style {P : List Char → Prop}
    (hstyle : ∀ name ∈ Tex.styleCommands.map Prod.snd, ∀ s, P s → P (Tex.command name s)) (classes : List String)
    {s : List Char} (h : P s) : P (Tex.styled classes s) := by
  rw [Tex.styled]
  have hnames : ∀ name ∈ classes.filterMap Tex.styleCommand?, name ∈ Tex.styleCommands.map Prod.snd := by
    intro name hname
    obtain ⟨style, -, hname⟩ := List.mem_filterMap.1 hname
    obtain ⟨before, after, hsplit, -⟩ := List.lookup_eq_some_iff.1 hname
    exact List.mem_map.2 ⟨(style, name), by rw [hsplit]; simp, rfl⟩
  generalize classes.filterMap Tex.styleCommand? = names at hnames
  induction names generalizing s with
  | nil => exact h
  | cons name rest ih =>
    rw [List.foldl_cons]
    exact ih (hstyle name (hnames name List.mem_cons_self) s h) (fun n hn => hnames n (List.mem_cons_of_mem name hn))

/-- What every command keeps, style commands keep. -/
theorem styled_of_command {P : List Char → Prop}
    (hcommand : ∀ name ∈ Tex.commandNames, ∀ s, P s → P (Tex.command name s)) (classes : List String) {s : List Char}
    (h : P s) : P (Tex.styled classes s) := by
  have hall : ∀ name ∈ Tex.styleCommands.map Prod.snd, name ∈ Tex.commandNames := by decide
  exact styled_of_style (fun name hname => hcommand name (hall name hname)) classes h

/-- Style commands leave the labels of a text. -/
theorem styled (classes : List String) (h : Markup Plain Named .sealed s l) :
    Markup Plain Named .sealed (Tex.styled classes s) l :=
  styled_of_command (P := fun s => Markup Plain Named .sealed s l) (fun _ hname _ h => command hname (loosen h))
    classes h

/-- The commands of the sections are commands of the formatter. -/
theorem sectionCommand_mem (level : Nat) (star : String) (h : star = "" ∨ star = "*") :
    Tex.sectionCommand level ++ star ∈ Tex.commandNames := by
  rcases h with rfl | rfl <;>
    · unfold Tex.sectionCommand
      split <;> decide

/-- A placement between brackets. -/
theorem placementText {placement : String} (h : Markup Plain Named .loose placement.toList []) :
    Markup Plain Named .sealed (Tex.placementText (some placement)) [] := by
  rw [Tex.placementText]
  exact after (of_escape (s := ['[']) rfl) (close (by decide) h)

/-- An environment as it is written: with a placement, and its body on lines of its own. -/
theorem environmentText {name : String} {placement : Option String} (hname : name ∈ Tex.environmentNames)
    (hplacement : Markup Plain Named .sealed (Tex.placementText placement) []) (h : Markup Plain Named .loose s l) :
    Markup Plain Named .sealed (Tex.environment name placement s) l := by
  have hbody : Markup Plain Named .sealed (Tex.placementText placement ++ (['\n'] ++ (s ++ ['\n']))) l :=
    after hplacement (after (of_escape rfl) (lineEnd h))
  have hall := before (environment hname hbody) (of_escape (s := "\n\n".toList) rfl)
  rw [Tex.environment]
  simpa only [List.append_assoc, List.cons_append, List.nil_append] using hall

/-- Texts with a separator between them. -/
theorem joinWith {c : Char} {r : List Char} (hc : c ∈ Tex.seals) (hr : Markup Plain Named .sealed r []) {α : Type}
    {f : α → List Char} {g : α → List Label} {xs : List α} (h : ∀ x ∈ xs, Markup Plain Named .loose (f x) (g x)) :
    Markup Plain Named .loose (Text.joinWith (c :: r) (xs.map f)) (xs.flatMap g) := by
  induction xs with
  | nil => exact loosen nil
  | cons x xs ih =>
    cases xs with
    | nil =>
      rw [List.map_singleton, List.flatMap_singleton, Text.joinWith, List.intercalate_singleton]
      exact h x List.mem_cons_self
    | cons y ys =>
      have htail := ih (fun z hz => h z (List.mem_cons_of_mem x hz))
      have hall := append (close hc (h x List.mem_cons_self)) (after hr htail)
      rw [List.map_cons, List.map_cons, Text.joinWith, List.intercalate_cons_cons, List.flatMap_cons]
      rw [List.map_cons, Text.joinWith] at hall
      simpa only [List.append_assoc, List.cons_append, List.nil_append] using hall

/-- A sequence of column letters is text that escaping leaves as it is. -/
theorem columns (n : Nat) : Markup Plain Named .sealed (List.replicate n 'l') [] := by
  refine of_escape ?_
  induction n with
  | zero => rfl
  | succ n ih =>
    rw [List.replicate_succ, Tex.escape, List.flatMap_cons]
    exact congrArg (List.cons 'l') ih

/-- The name of a label is written as it is. -/
theorem labelName (kind : ReferenceKind) {id : String} (h : Markup Plain Named .loose id.toList []) :
    Markup Plain Named .loose (Tex.labelName kind id) [] := by
  have hpre : Markup Plain Named .sealed (kind.labelPrefix.toList ++ [':']) [] := by
    refine of_escape ?_
    cases kind <;> rfl
  have hall := after hpre h
  rw [List.append_assoc] at hall
  exact hall

end Markup

end Manuscript
