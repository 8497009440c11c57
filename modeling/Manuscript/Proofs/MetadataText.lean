import Manuscript.Proofs.EscapedText
import Manuscript.Proofs.PlainStrings

/-!
# What a template sees of the metadata

Each text of the metadata takes its own way to the template: some have a default, some are put together from others,
some may be missing. On each of these ways it is escaped once. So the template sees escaped text
(`escaped_of_mem_metadataStrings`), and reading that back gives the metadata or what stands in for them
(`ofDocument_showsMetadata`). The date alone may be no escaped text: where none is given, it is the command for the
day on which LaTeX runs.
-/

namespace Manuscript.TemplateData

/-! ## Reading back -/

/-- The string that a string of LaTeX text is read back as. -/
def readBack (s : String) : String :=
  String.ofList (Tex.unescape s.toList)

/-- The author whose name and affiliation are read back. -/
def readBackAuthor (author : Author) : Author :=
  { name := readBack author.name, affiliation := author.affiliation.map readBack }

/-- An escaped string is read back. -/
@[simp]
theorem readBack_escaped (s : String) : readBack (escaped s) = s := by
  unfold readBack escaped
  rw [String.toList_ofList, Tex.unescape_escape, String.ofList_toList]

/-- An escaped author is read back. -/
@[simp]
theorem readBackAuthor_escapedAuthor (author : Author) : readBackAuthor (escapedAuthor author) = author := by
  obtain ⟨name, affiliation⟩ := author
  cases affiliation <;> simp [readBackAuthor, escapedAuthor]

/-! ## Texts that may be missing, and lists of them -/

/-- An escaped string that may be missing is read back. -/
@[simp]
theorem map_readBack_escaped (given : Option String) : (given.map escaped).map readBack = given := by
  cases given <;> simp

/-- Escaped strings are read back one by one. -/
@[simp]
theorem map_readBack_map_escaped (given : List String) : (given.map escaped).map readBack = given := by
  induction given with
  | nil => rfl
  | cons first rest ih => rw [List.map_cons, List.map_cons, readBack_escaped, ih]

/-- Escaped authors are read back one by one. -/
@[simp]
theorem map_readBackAuthor_escapedAuthor (given : List Author) :
    (given.map escapedAuthor).map readBackAuthor = given := by
  induction given with
  | nil => rfl
  | cons first rest ih => rw [List.map_cons, List.map_cons, readBackAuthor_escapedAuthor, ih]

/-! ## The date -/

/-- The date is the given one, escaped, unless none is given or it is blank; it is the day on which LaTeX runs then. -/
theorem dateText_cases (given : Option String) :
    (∃ date, given = some date ∧ isBlankString date = false ∧ dateText given = escaped date) ∨
      ((∀ date, given = some date → isBlankString date = true) ∧ dateText given = Metadata.today) := by
  unfold dateText
  cases hgiven : given with
  | none =>
    right
    simp
  | some date =>
    cases hblank : isBlankString date with
    | true =>
      right
      simp [Option.filter, hblank]
    | false =>
      left
      exact ⟨date, rfl, hblank, by simp [Option.filter, hblank]⟩

/-! ## The record of a document -/

/-- What is escaped is escaped text. -/
theorem escaped_escaped (s : String) : Tex.Escaped (escaped s).toList := by
  unfold escaped
  rw [String.toList_ofList]
  exact Tex.escaped_escape s.toList

variable (metadata : Metadata) (f : Formatter) (bibliography : Option String) (directory : Option Path)

/-- What a template sees of the metadata, the date apart, is escaped text: no special character stands outside a
sequence. -/
theorem escaped_of_mem_metadataStrings :
    ∀ s ∈ (ofDocument metadata f bibliography directory).metadataStrings.tail, Tex.Escaped s.toList := by
  intro s hs
  obtain ⟨given, rfl⟩ := exists_escaped_of_mem_tail metadata f bibliography directory s hs
  exact escaped_escaped given

/-- A template sees the metadata escaped once: each text in its place and none left out, as escaped text that is
read back as the text of the metadata or as what stands in for it. -/
structure ShowsMetadata (data : TemplateData) (metadata : Metadata) : Prop where
  title : readBack data.title = Metadata.titleOrDefault metadata.title
  shortTitle : data.shortTitle.map readBack = metadata.shortTitle
  keywords : data.keywords.map readBack = metadata.keywords
  authors : data.authors.map readBackAuthor = Metadata.authorsOrDefault metadata.authors
  shortAuthor : data.shortAuthor.map readBack = Metadata.shortAuthor metadata.authors
  escaped : ∀ s ∈ data.metadataStrings.tail, Tex.Escaped s.toList
  /-- A date that is given and not blank is escaped like the rest; otherwise there stands the day on which LaTeX
  runs. -/
  date :
    (∃ date, metadata.date = some date ∧ isBlankString date = false ∧ readBack data.date = date ∧
      Tex.Escaped data.date.toList) ∨
      ((∀ date, metadata.date = some date → isBlankString date = true) ∧ data.date = Metadata.today)
  /-- There is always a first author, and the others follow it. -/
  authors_ne_nil : data.authors ≠ []
  authors_eq_cons : data.authors = data.firstAuthor :: data.otherAuthors

/-- Whatever the tree and the files beside it, a template sees the metadata escaped once. -/
theorem ofDocument_showsMetadata : (ofDocument metadata f bibliography directory).ShowsMetadata metadata where
  title := readBack_escaped _
  shortTitle := map_readBack_escaped metadata.shortTitle
  keywords := map_readBack_map_escaped metadata.keywords
  authors := map_readBackAuthor_escapedAuthor _
  shortAuthor := map_readBack_escaped _
  escaped := escaped_of_mem_metadataStrings metadata f bibliography directory
  date := by
    rcases dateText_cases metadata.date with ⟨date, hdate, hblank, htext⟩ | ⟨hblank, htext⟩
    · refine Or.inl ⟨date, hdate, hblank, ?_, ?_⟩
      · rw [← readBack_escaped date, ← htext]
        rfl
      · have hescaped := escaped_escaped date
        rwa [← htext] at hescaped
    · exact Or.inr ⟨hblank, htext⟩
  authors_ne_nil := by
    rw [authors_eq_cons metadata f bibliography directory]
    exact List.cons_ne_nil _ _
  authors_eq_cons := authors_eq_cons metadata f bibliography directory

/-- A record with special characters in its title, its date and the names and the affiliation of its authors. -/
def smithMetadata : Metadata :=
  { title := some "50% of \x7bA\x7d", authors :=
    [{ name := "Smith & Sons", affiliation := some "R&D" }, { name := "O_1" }],
    date := some "May #3", keywords := ["a_b", "~"] }

/-- What a template sees of that record beside an article without content. -/
def smithData : TemplateData :=
  ofDocument smithMetadata (Formatter.ofDocument { name := "article" } {} none) none none

/-- The two authors of the record stand in the running head with the special characters of both escaped, and its
short title is missing. -/
theorem smithData_showsMetadata :
    smithData.shortAuthor = some "Smith \\& Sons and O\\_1" ∧
    readBack "Smith \\& Sons and O\\_1" = "Smith & Sons and O_1" ∧
    smithData.shortTitle.map readBack = none ∧ smithData.authors.map readBackAuthor = smithMetadata.authors ∧
    smithData.title ∈ smithData.metadataStrings.tail ∧ Tex.Escaped smithData.title.toList := by
  have h : smithData.ShowsMetadata smithMetadata :=
    ofDocument_showsMetadata smithMetadata (Formatter.ofDocument { name := "article" } {} none) none none
  have hshown : smithData.shortAuthor = some "Smith \\& Sons and O\\_1" := by decide
  have htitle : smithData.title ∈ smithData.metadataStrings.tail := List.mem_cons_self
  refine ⟨hshown, ?_, h.shortTitle, h.authors, htitle, h.escaped _ htitle⟩
  have hrunning := h.shortAuthor
  rw [hshown] at hrunning
  exact Option.some.inj hrunning

end Manuscript.TemplateData
