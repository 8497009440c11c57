import Mathlib.Data.List.Chain
import Manuscript.Proofs.Braces
import Manuscript.Citations
import Manuscript.TemplateData

/-!
# What a template sees besides formatted text

A string leaves the LaTeX text around it alone when it begins no comment and its braces are balanced (`Tex.Inert`).
What is escaped is inert, and so is every string that a template sees besides formatted text, but for two that are
not escaped: the name of the bibliography file and the directory of the images. These are inert exactly when the
name of the document and the path of the directory are, as they stand (`plainStrings_inert_iff`).
-/

namespace Manuscript

namespace Tex

/-- Each character that starts a comment or a parameter has a backslash right before it. The blank stands for what
comes before the text. -/
def Guarded (s : List Char) : Prop :=
  (' ' :: s).IsChain (fun before c => c = '%' ∨ c = '#' → before = '\\')

instance (s : List Char) : Decidable (Guarded s) :=
  inferInstanceAs (Decidable (List.IsChain _ _))

/-- A text that neither begins a comment nor opens or closes anything around it. -/
structure Inert (s : List Char) : Prop where
  guarded : Guarded s
  balanced : Balanced s

/-- What an inert text keeps, in two parts. -/
theorem inert_iff {s : List Char} : Inert s ↔ Guarded s ∧ Balanced s :=
  ⟨fun h => ⟨h.guarded, h.balanced⟩, fun h => ⟨h.1, h.2⟩⟩

instance (s : List Char) : Decidable (Inert s) :=
  decidable_of_iff (Guarded s ∧ Balanced s) inert_iff.symm

variable {s t : List Char}

/-! ## Comments -/

theorem Guarded.append (hs : Guarded s) (ht : Guarded t) : Guarded (s ++ t) := by
  unfold Guarded at hs ht ⊢
  rw [← List.cons_append]
  refine List.isChain_append.2 ⟨hs, ht.of_cons, fun before _ c hc hmark => ?_⟩
  -- The text behind starts with no such character, since the blank in front of it is no backslash.
  exact absurd (ht.rel_head? hc hmark) (by decide)

theorem Guarded.of_append (h : Guarded (s ++ t)) : Guarded s := by
  unfold Guarded at h ⊢
  rw [← List.cons_append] at h
  exact (List.isChain_append.1 h).1

/-- A text without the two signs is guarded. -/
theorem guarded_of_not_mem (hpercent : '%' ∉ s) (hhash : '#' ∉ s) : Guarded s := by
  refine List.isChain_iff_forall_rel_of_append_cons_cons.2 (fun before c lead rest heq hmark => ?_)
  have hmem : ∀ d ∈ ' ' :: s, d ≠ '%' ∧ d ≠ '#' := by
    rintro d (_ | ⟨_, hd⟩)
    · decide
    · exact ⟨fun h => hpercent (h ▸ hd), fun h => hhash (h ▸ hd)⟩
  have hc := hmem c (heq ▸ by simp)
  rcases hmark with h | h
  · exact absurd h hc.1
  · exact absurd h hc.2

/-- Without a backslash there is nothing that could guard. -/
theorem guarded_iff_of_not_mem (hback : '\\' ∉ s) : Guarded s ↔ '%' ∉ s ∧ '#' ∉ s := by
  refine ⟨fun h => ?_, fun h => guarded_of_not_mem h.1 h.2⟩
  have hnot : ∀ c, c = '%' ∨ c = '#' → c ∉ s := by
    intro c hmark hc
    obtain ⟨lead, rest, rfl⟩ := List.append_of_mem hc
    obtain ⟨before, hbefore⟩ :=
      Option.ne_none_iff_exists'.1 (mt List.getLast?_eq_none_iff.1 (List.cons_ne_nil ' ' lead))
    unfold Guarded at h
    rw [← List.cons_append] at h
    have hslash : before = '\\' := (List.isChain_append.1 h).2.2 before hbefore c rfl hmark
    rcases List.mem_cons.1 (List.mem_of_mem_getLast? hbefore) with hblank | hlead
    · exact absurd (hblank.symm.trans hslash) (by decide)
    · exact hback (hslash ▸ List.mem_append_left _ hlead)
  exact ⟨hnot '%' (Or.inl rfl), hnot '#' (Or.inr rfl)⟩

/-- A text without the two signs behind changes nothing. -/
theorem guarded_append_iff (hpercent : '%' ∉ t) (hhash : '#' ∉ t) : Guarded (s ++ t) ↔ Guarded s :=
  ⟨Guarded.of_append, fun h => h.append (guarded_of_not_mem hpercent hhash)⟩

/-- An escaped text is guarded. -/
theorem guarded_escape (s : List Char) : Guarded (escape s) := by
  have hall : ∀ e ∈ escapes, Guarded e.2 := by decide
  have hmarks : ∀ c, c = '%' ∨ c = '#' → (escapes.lookup c).isSome = true := by
    rintro c (rfl | rfl) <;> rfl
  induction s with
  | nil => exact guarded_of_not_mem nofun nofun
  | cons c rest ih =>
    refine Guarded.append ?_ ih
    rw [escapeChar]
    cases hc : escapes.lookup c with
    | some sequence =>
      obtain ⟨l₁, l₂, heq, -⟩ := List.lookup_eq_some_iff.1 hc
      exact hall (c, sequence) (by rw [heq]; simp)
    | none =>
      have hne : ∀ d, d = '%' ∨ d = '#' → d ∉ [c] := by
        rintro d hd hmem
        rw [List.mem_singleton.1 hmem] at hd
        have hsome := hmarks c hd
        rw [hc] at hsome
        cases hsome
      exact guarded_of_not_mem (hne '%' (Or.inl rfl)) (hne '#' (Or.inr rfl))

/-! ## Braces -/

/-- Whether a character opens or closes a group. -/
def isBrace (c : Char) : Bool :=
  c = '{' || c = '}'

/-- Where no backslash takes a character, only the braces count. -/
theorem balanced_filter_isBrace (hback : '\\' ∉ s) : Balanced (s.filter isBrace) ↔ Balanced s := by
  have hread : ∀ depth, (braceReader fun _ => false).read (depth, false) (s.filter isBrace) =
      (braceReader fun _ => false).read (depth, false) s := by
    induction s with
    | nil => exact fun _ => rfl
    | cons c rest ih =>
      intro depth
      have ih := ih (fun hmem => hback (List.mem_cons_of_mem c hmem))
      have hne : c ≠ '\\' := fun hc => hback (hc ▸ List.mem_cons_self)
      by_cases hopening : c = '{'
      · rw [hopening, List.filter_cons_of_pos (by rfl)]
        exact ih (depth + 1)
      by_cases hclosing : c = '}'
      · rw [hclosing, List.filter_cons_of_pos (by rfl)]
        cases depth with
        | zero => rfl
        | succ outer => exact ih outer
      · rw [List.filter_cons_of_neg (by simp [isBrace, hopening, hclosing]), Reader.read_cons,
          braceReader_step_other hne hopening hclosing, Option.bind_some, ih]
  rw [Balanced, hread]
  rfl

/-- What has neither braces nor backslashes may follow. -/
theorem balanced_append_iff (ht : Bare t) : Balanced (s ++ t) ↔ Balanced s := by
  have hdepth : ∀ q, ∃ escaped, (braceReader fun _ => false).read q t = some (q.1, escaped) := by
    rintro ⟨depth, escaped⟩
    cases escaped with
    | false => exact ⟨false, braceReader_read_bare ht depth⟩
    | true =>
      cases t with
      | nil => exact ⟨true, rfl⟩
      | cons c rest => exact ⟨false, braceReader_read_bare (ht.subset fun d hd => List.mem_cons_of_mem c hd) depth⟩
  rw [Balanced, Balanced, Reader.read_append]
  cases (braceReader fun _ => false).read (0, false) s with
  | none => rfl
  | some q =>
    obtain ⟨escaped, hq⟩ := hdepth q
    rw [Option.bind_some, hq]
    rfl

/-- A bare text behind changes nothing. -/
theorem inert_append_iff (ht : Bare t) (hpercent : '%' ∉ t) (hhash : '#' ∉ t) : Inert (s ++ t) ↔ Inert s := by
  rw [inert_iff, inert_iff, guarded_append_iff hpercent hhash, balanced_append_iff ht]

/-- An escaped text is inert. -/
theorem inert_escape (s : List Char) : Inert (escape s) where
  guarded := guarded_escape s
  balanced := balanced_of_read (braceReader_read_weaken (strictReader_read_escape s 0))

end Tex

/-- The strings of an author. -/
def Author.strings (author : Author) : List String :=
  author.name :: author.affiliation.toList

namespace TemplateData

/-- The strings that a template sees of the metadata. -/
def metadataStrings (data : TemplateData) : List String :=
  data.date :: data.title :: data.shortTitle.toList ++ data.keywords ++ data.shortAuthor.toList ++
    (data.firstAuthor :: (data.authors ++ data.otherAuthors)).flatMap Author.strings

/-- The strings that a template sees besides formatted text. -/
def plainStrings (data : TemplateData) : List String :=
  data.metadataStrings ++ (data.bibliography.toList ++ data.graphicsPath.toList)

/-! ## What is escaped -/

/-- An escaped string is inert. -/
theorem inert_escaped (s : String) : Tex.Inert (escaped s).toList := by
  rw [escaped, String.toList_ofList]
  exact Tex.inert_escape s.toList

/-- The date is inert, given or not. -/
theorem inert_dateText (date : Option String) : Tex.Inert (dateText date).toList := by
  unfold dateText
  split
  · exact inert_escaped _
  · decide

section

variable (metadata : Metadata) (f : Formatter) (bibliography : Option String) (directory : Option Path)

/-- The authors are the first one and the others; there is always a first one. -/
theorem authors_eq_cons :
    (ofDocument metadata f bibliography directory).authors =
      (ofDocument metadata f bibliography directory).firstAuthor ::
        (ofDocument metadata f bibliography directory).otherAuthors := by
  have hne : (Metadata.authorsOrDefault metadata.authors).map escapedAuthor ≠ [] := by
    simp [Metadata.authorsOrDefault_ne_nil]
  obtain ⟨first, rest, hauthors⟩ := List.exists_cons_of_ne_nil hne
  simp [ofDocument, hauthors]

/-- The authors that a template sees come of given ones or of the unknown one. -/
theorem exists_escapedAuthor {author : Author} (h : author ∈ (ofDocument metadata f bibliography directory).authors) :
    ∃ given ∈ Metadata.authorsOrDefault metadata.authors, author = escapedAuthor given := by
  obtain ⟨given, hgiven, rfl⟩ := List.mem_map.1 h
  exact ⟨given, hgiven, rfl⟩

/-- What a template sees of the metadata is escaped, but for the date. -/
theorem exists_escaped_of_mem_tail :
    ∀ s ∈ (ofDocument metadata f bibliography directory).metadataStrings.tail, ∃ given, s = escaped given := by
  have hoption : ∀ (given : Option String), ∀ s ∈ (given.map escaped).toList, ∃ given, s = escaped given := by
    intro given s hs
    obtain ⟨text, -, rfl⟩ := Option.map_eq_some_iff.1 (Option.mem_toList.1 hs)
    exact ⟨text, rfl⟩
  have hauthors : ∀ author ∈ (ofDocument metadata f bibliography directory).authors, ∀ s ∈ author.strings,
      ∃ given, s = escaped given := by
    intro author hauthor s hs
    obtain ⟨given, -, rfl⟩ := exists_escapedAuthor metadata f bibliography directory hauthor
    rcases List.mem_cons.1 hs with rfl | hs
    · exact ⟨given.name, rfl⟩
    · exact hoption given.affiliation s hs
  intro s hs
  unfold metadataStrings at hs
  -- The first author and the others are listed once by themselves and once more among all.
  rw [authors_eq_cons] at hauthors hs
  simp only [List.cons_append, List.tail_cons, List.mem_cons, List.mem_append, or_assoc, List.mem_flatMap] at hs
  rcases hs with rfl | hshort | hkeyword | hrunning | ⟨author, hauthor, hs⟩
  · exact ⟨_, rfl⟩
  · exact hoption metadata.shortTitle s hshort
  · obtain ⟨keyword, -, rfl⟩ := List.mem_map.1 hkeyword
    exact ⟨keyword, rfl⟩
  · exact hoption (Metadata.shortAuthor metadata.authors) s hrunning
  · refine hauthors author ?_ s hs
    rw [List.mem_cons]
    rcases hauthor with h | h | h | h
    · exact Or.inl h
    · exact Or.inl h
    · exact Or.inr h
    · exact Or.inr h

/-- What comes of the metadata is inert, given or not. -/
theorem inert_of_mem_metadataStrings :
    ∀ s ∈ (ofDocument metadata f bibliography directory).metadataStrings, Tex.Inert s.toList := by
  intro s hs
  rcases List.mem_cons.1 hs with rfl | hs
  · exact inert_dateText metadata.date
  · obtain ⟨given, rfl⟩ := exists_escaped_of_mem_tail metadata f bibliography directory s hs
    exact inert_escaped given

end

/-! ## The directory of the images -/

variable (directory : Path)

/-- The text of a directory is that of its path with slashes for backslashes, and a slash may follow. -/
theorem exists_directoryText :
    ∃ ending : List Char, (∀ c ∈ ending, c = '/') ∧
      (directoryText directory).toList = directory.text.toList.map
        (fun c => if c = '\\' then '/' else c) ++ ending := by
  unfold directoryText
  dsimp only
  rw [String.toList_ofList]
  split
  · exact ⟨[], nofun, (List.append_nil _).symm⟩
  · exact ⟨['/'], fun c hc => List.mem_singleton.1 hc, rfl⟩

/-- A directory's text has the characters of the path but its backslashes. -/
theorem mem_directoryText {c : Char} (hc : c ≠ '/') :
    c ∈ (directoryText directory).toList ↔ c ≠ '\\' ∧ c ∈ directory.text.toList := by
  obtain ⟨ending, hending, htext⟩ := exists_directoryText directory
  have hnot : c ∉ ending := fun hmem => hc (hending c hmem)
  rw [htext, List.mem_append, or_iff_left hnot, List.mem_map]
  constructor
  · rintro ⟨d, hd, rfl⟩
    by_cases hback : d = '\\'
    · rw [if_pos hback] at hc
      exact absurd rfl hc
    · rw [if_neg hback]
      exact ⟨hback, hd⟩
  · rintro ⟨hback, hmem⟩
    exact ⟨c, hmem, if_neg hback⟩

/-- A directory's text has the braces of the path. -/
theorem filter_directoryText :
    (directoryText directory).toList.filter Tex.isBrace = directory.text.toList.filter Tex.isBrace := by
  obtain ⟨ending, hending, htext⟩ := exists_directoryText directory
  have hnone : ending.filter Tex.isBrace = [] := List.filter_eq_nil_iff.2 (fun c hc => by rw [hending c hc]; decide)
  rw [htext, List.filter_append, hnone, List.append_nil]
  induction directory.text.toList with
  | nil => rfl
  | cons c rest ih =>
    by_cases hback : c = '\\'
    · rw [hback, List.map_cons, List.filter_cons_of_neg (by decide), List.filter_cons_of_neg (by decide), ih]
    · rw [List.map_cons, if_neg hback, List.filter_cons, List.filter_cons, ih]

/-- A directory is inert when no character of its path starts a comment or a parameter and its braces, each of which
counts, are balanced. -/
theorem inert_directoryText :
    Tex.Inert (directoryText directory).toList ↔
      '%' ∉ directory.text.toList ∧ '#' ∉ directory.text.toList ∧
      Tex.Balanced (directory.text.toList.filter Tex.isBrace) := by
  have hback : '\\' ∉ (directoryText directory).toList := by
    rw [mem_directoryText directory (by decide)]
    exact fun h => h.1 rfl
  rw [Tex.inert_iff, Tex.guarded_iff_of_not_mem hback, ← Tex.balanced_filter_isBrace hback, filter_directoryText,
    mem_directoryText directory (by decide), mem_directoryText directory (by decide), and_assoc]
  simp

/-- Every string that a template sees besides formatted text is inert, exactly when the two are that are not
escaped: the name of the document, if there is something to cite, and the directory of the images. -/
theorem plainStrings_inert_iff (metadata : Metadata) (f : Formatter) (name : String) (citations : Option Citations)
    (directory : Path) :
    (∀ s ∈ (ofDocument metadata f (Citations.bibliographyFile name citations) (some directory)).plainStrings,
      Tex.Inert s.toList) ↔
      (citations.any Citations.hasBibliography = true → Tex.Inert name.toList) ∧
        (directory.text ≠ "" → '%' ∉ directory.text.toList ∧ '#' ∉ directory.text.toList ∧
          Tex.Balanced (directory.text.toList.filter Tex.isBrace)) := by
  have hname : (∀ s ∈ (Citations.bibliographyFile name citations).toList, Tex.Inert s.toList) ↔
      (citations.any Citations.hasBibliography = true → Tex.Inert name.toList) := by
    have hbib : Tex.Inert (name ++ ".bib").toList ↔ Tex.Inert name.toList := by
      rw [String.toList_append]
      exact Tex.inert_append_iff (by decide) (by decide) (by decide)
    rw [← hbib, Citations.bibliographyFile]
    cases citations with
    | none => simp
    | some given => cases hcites : given.hasBibliography <;> simp [Option.filter, hcites]
  have hdirectory :
      (∀ s ∈ (((some directory).filter (fun path => !path.text.isEmpty)).map directoryText).toList,
        Tex.Inert s.toList) ↔
      (directory.text ≠ "" → Tex.Inert (directoryText directory).toList) := by
    by_cases hempty : directory.text = "" <;> simp [Option.filter, hempty]
  rw [← inert_directoryText, ← hname, ← hdirectory, plainStrings, List.forall_mem_append, List.forall_mem_append]
  exact and_iff_right (inert_of_mem_metadataStrings metadata f _ (some directory))

/-- The record of an empty article whose name has a percent sign and that cites something, in a directory with a
percent sign. -/
def percentData : TemplateData :=
  let citations : Citations := { bibliography := ["@misc\x7ba\x7d"] }
  ofDocument {} (Formatter.ofDocument { name := "article" } {} (some citations))
    (Citations.bibliographyFile "50%" (some citations))
    (some ⟨"/docs/50%"⟩)

/-- The name of the bibliography file and the directory of the images may both begin a comment. -/
theorem comment_begun :
    (percentData.bibliography = some "50%.bib" ∧ "50%.bib" ∈ percentData.plainStrings ∧ ¬Tex.Inert "50%.bib".toList) ∧
      percentData.graphicsPath = some "/docs/50%/" ∧ "/docs/50%/" ∈ percentData.plainStrings ∧
      ¬Tex.Inert "/docs/50%/".toList := by
  decide +kernel

end TemplateData

end Manuscript
