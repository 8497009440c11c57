import Manuscript.Proofs.EscapedEntry
import Manuscript.Proofs.TextKept
import Manuscript.Proofs.WellNested

/-!
# Link targets in their arguments

The target of a link goes into the argument of a command, and only `%` and `#` are made harmless in it, each by a
backslash. That is enough for targets whose braces are balanced, that have no `%` and no `#` right behind a
backslash that takes them, and that end in no such backslash. Every other target breaks out of its argument or has a
`%` or `#` that is not escaped (`link_keeps_target_iff`).
-/

namespace Manuscript

open Bibtex (backslashes backslashes_concat)

namespace Tex

/-! ## Closed text -/

/-- Every brace that a text opens is closed, and no other, and no backslash at its end waits for a character. -/
def Closed (s : List Char) : Prop :=
  (braceReader fun _ => false).read (0, false) s = some (0, false)

instance (s : List Char) : Decidable (Closed s) :=
  inferInstanceAs (Decidable (_ = _))

namespace Closed

variable {s t : List Char}

/-- Closed text is balanced. -/
theorem balanced (h : Closed s) : Balanced s :=
  balanced_of_read h

/-- Closed text leaves the scan as it was at every depth. -/
theorem read (h : Closed s) (depth : Nat) :
    (braceReader fun _ => false).read (depth, false) s = some (depth, false) := by
  have hshift := braceReader_read_shift h depth
  rwa [Nat.zero_add] at hshift

theorem append (hs : Closed s) (ht : Closed t) : Closed (s ++ t) := by
  unfold Closed
  rw [Reader.read_append_of_eq _ hs]
  exact ht

/-- An escaped text is closed. -/
theorem escape (s : List Char) : Closed (escape s) :=
  braceReader_read_weaken (strictReader_read_escape s 0)

/-- A group around a closed text. -/
theorem group (h : Closed s) : Closed ('{' :: (s ++ ['}'])) := by
  have hopening : (braceReader fun _ => false).step (0, false) '{' = some (1, false) := rfl
  unfold Closed
  rw [Reader.read_cons, hopening, Option.bind_some, Reader.read_append_of_eq _ (h.read 1)]
  rfl

/-- A command whose argument is closed. -/
theorem command {name : String} (hname : name ∈ commandNames) (h : Closed s) : Closed (command name s) := by
  have hall : ∀ name ∈ commandNames, Closed ('\\' :: name.toList) := by decide
  have htext : Tex.command name s = '\\' :: name.toList ++ '{' :: (s ++ ['}']) := rfl
  rw [htext]
  exact (hall name hname).append h.group

/-- Style commands around a closed text. -/
theorem styled (classes : List String) (h : Closed s) : Closed (styled classes s) :=
  Markup.styled_of_command (P := Closed) (fun _ hname _ hs => command hname hs) classes h

theorem flatMap {α : Type} {l : List α} {g : α → List Char} (h : ∀ a ∈ l, Closed (g a)) : Closed (l.flatMap g) := by
  induction l with
  | nil => rfl
  | cons a rest ih =>
    rw [List.flatMap_cons]
    exact (h a List.mem_cons_self).append (ih (fun b hb => h b (List.mem_cons_of_mem a hb)))

end Closed

/-! ## Arguments -/

/-- The argument behind an opening brace. The scan for braces goes over it and refuses the brace that closes it. -/
def argument? (q : Nat × Bool) : List Char → Option (List Char)
  | [] => none
  | c :: rest =>
    match (braceReader fun _ => false).step q c with
    | some p => (argument? p rest).map (c :: ·)
    | none => some []

/-- The first argument of the first of some commands in a text. -/
def firstArgument? (names : List String) : List Char → Option (List Char)
  | [] => none
  | c :: rest =>
    match names.find? (fun name => ('\\' :: (name.toList ++ ['{'])).isPrefixOf (c :: rest)) with
    | some name => argument? (0, false) (rest.drop (name.length + 1))
    | none => firstArgument? names rest

/-- A text in front of a closing brace is the argument that ends there exactly when the scan comes to that brace
with nothing open. -/
theorem argument?_eq_some_iff {q : Nat × Bool} {s t : List Char} :
    argument? q (s ++ '}' :: t) = some s ↔ (braceReader fun _ => false).read q s = some (0, false) := by
  induction s generalizing q with
  | nil =>
    obtain ⟨depth, escaped⟩ := q
    rw [List.nil_append, argument?, Reader.read_nil]
    cases escaped with
    | true => simp [braceReader]
    | false => cases depth <;> simp [braceReader]
  | cons c rest ih =>
    rw [List.cons_append, argument?, Reader.read_cons]
    cases (braceReader fun _ => false).step q c with
    | none => simp
    | some p => simp [ih]

/-! ## Targets -/

/-- A link target that stays in its argument: its braces are balanced, and a backslash takes neither `%` nor `#` nor
the end. -/
def SafeTarget (s : List Char) : Prop :=
  (braceReader fun c => c == '%' || c == '#').read (0, false) s = some (0, false)

instance (s : List Char) : Decidable (SafeTarget s) :=
  inferInstanceAs (Decidable (_ = _))

/-- Each `%` and each `#` of a target stands directly behind an odd number of backslashes, given what stands in
front of the target. -/
def Shielded (front target : List Char) : Prop :=
  ∀ before c after, target = before ++ c :: after → c = '%' ∨ c = '#' → Odd (backslashes (front ++ before))

/-- A link target as it is written is the first argument of the link, its `%` and `#` are escaped there, and the
braces of the link are balanced. -/
structure KeepsTarget (target link : List Char) : Prop where
  balanced : Balanced link
  argument : firstArgument? ["href", "url"] link = some target
  shielded : ∃ front rest, link = front ++ (target ++ rest) ∧ front.getLast? = some '{' ∧ Shielded front target

/-- The backslashes at an end are counted back to the last other character. -/
theorem backslashes_append_cons {c : Char} (hc : c ≠ '\\') (s t : List Char) :
    backslashes (s ++ c :: t) = backslashes t := by
  induction t using List.reverseRecOn with
  | nil =>
    rw [backslashes_concat, if_neg hc]
    rfl
  | append_singleton t d ih =>
    have happend : s ++ c :: (t ++ [d]) = (s ++ c :: t) ++ [d] := by simp
    rw [happend, backslashes_concat, backslashes_concat, ih]

/-- A character waits for the next one exactly when it is a backslash that no other one takes. -/
theorem step_escaped {q p : Nat × Bool} {c : Char} (h : (braceReader fun _ => false).step q c = some p) :
    p.2 = (!q.2 && c == '\\') := by
  obtain ⟨depth, escaped⟩ := q
  cases escaped with
  | true =>
    obtain rfl := Option.some.inj h
    rfl
  | false =>
    simp only [braceReader] at h
    split at h
    · rename_i hback
      obtain rfl := Option.some.inj h
      simp [hback]
    · rename_i hback
      have hne : (c == '\\') = false := beq_eq_false_iff_ne.2 hback
      rw [hne, Bool.and_false]
      split at h
      · obtain rfl := Option.some.inj h
        rfl
      · split at h
        · cases depth with
          | zero => cases h
          | succ outer =>
            obtain rfl := Option.some.inj h
            rfl
        · obtain rfl := Option.some.inj h
          rfl

/-- Behind a text the scan waits for a character when the text ends in an odd number of backslashes. -/
theorem escaped_iff_odd {s : List Char} {depth : Nat} {p : Nat × Bool}
    (h : (braceReader fun _ => false).read (depth, false) s = some p) : p.2 = true ↔ Odd (backslashes s) := by
  induction s using List.reverseRecOn generalizing p with
  | nil =>
    obtain rfl := Option.some.inj h
    simp [backslashes]
  | append_singleton s c ih =>
    rw [Reader.read_append] at h
    obtain ⟨q, hread, hstep⟩ := Option.bind_eq_some_iff.1 h
    rw [Reader.read_singleton] at hstep
    rw [step_escaped hstep, backslashes_concat]
    have hodd := ih hread
    by_cases hc : c = '\\'
    · rw [if_pos hc, Nat.odd_add_one, ← hodd, hc]
      simp
    · rw [if_neg hc]
      simp [hc]

/-- The scan meets `%` and `#` only where a backslash takes them. -/
def MarksTaken (q : Nat × Bool) (s : List Char) : Prop :=
  ∀ before c after, s = before ++ c :: after → c = '%' ∨ c = '#' →
    ∀ p, (braceReader fun _ => false).read q before = some p → p.2 = true

/-- The marks of a text are taken when the first is and the others are behind it. -/
theorem marksTaken_cons {q : Nat × Bool} {c : Char} {s : List Char} :
    MarksTaken q (c :: s) ↔
      (c = '%' ∨ c = '#' → q.2 = true) ∧ ∀ p, (braceReader fun _ => false).step q c = some p → MarksTaken p s := by
  constructor
  · intro h
    refine ⟨fun hc => h [] c s rfl hc q rfl, fun p hstep before d after hsplit hd r hr => ?_⟩
    refine h (c :: before) d after (by rw [hsplit, List.cons_append]) hd r ?_
    rw [Reader.read_cons, hstep, Option.bind_some, hr]
  · rintro ⟨hc, hs⟩ before d after hsplit hd r hr
    cases before with
    | nil =>
      rw [List.nil_append, List.cons.injEq] at hsplit
      rw [← Option.some.inj hr]
      exact hc (hsplit.1 ▸ hd)
    | cons b before =>
      rw [List.cons_append, List.cons.injEq] at hsplit
      rw [Reader.read_cons, ← hsplit.1] at hr
      obtain ⟨p, hstep, hr⟩ := Option.bind_eq_some_iff.1 hr
      exact hs p hstep before d after hsplit.2 hd r hr

/-- The scan of a target that refuses `%` and `#` behind a backslash comes as far as the scan of what is written for
it, as long as what is written meets `%` and `#` only where a backslash takes them. -/
theorem read_escapeUrl_iff {q p : Nat × Bool} {s : List Char} :
    (braceReader fun c => c == '%' || c == '#').read q s = some p ↔
      (braceReader fun _ => false).read q (escapeUrl s) = some p ∧ MarksTaken q (escapeUrl s) := by
  induction s generalizing q with
  | nil =>
    refine ⟨fun h => ⟨h, fun before c after hsplit => ?_⟩, fun h => h.1⟩
    exact absurd hsplit.symm (by simp [escapeUrl])
  | cons c rest ih =>
    obtain ⟨depth, escaped⟩ := q
    rw [escapeUrl_cons, Reader.read_cons]
    by_cases hc : c = '%' ∨ c = '#'
    · have hrefused : (c == '%' || c == '#') = true := by rwa [Bool.or_eq_true, beq_iff_eq, beq_iff_eq]
      have hne : c ≠ '\\' ∧ c ≠ '{' ∧ c ≠ '}' := by rcases hc with rfl | rfl <;> decide
      have hkeep : ∀ refused : Char → Bool, (braceReader refused).step (depth, false) c = some (depth, false) :=
        fun refused => braceReader_step_other hne.1 hne.2.1 hne.2.2 depth
      have hback : (braceReader fun _ => false).step (depth, escaped) '\\' =
        some (depth, !escaped) := by cases escaped <;> rfl
      have htake : (braceReader fun _ => false).step (depth, true) c = some (depth, false) := rfl
      rw [if_pos hc, List.cons_append, List.singleton_append, Reader.read_cons, hback, Option.bind_some,
        marksTaken_cons, hback]
      simp only [Option.some.injEq, forall_eq', marksTaken_cons (c := c), hc, true_implies]
      cases escaped with
      | true =>
        -- The backslash before takes the one that is put in, and the character is met without one.
        have hnone : (braceReader fun c => c == '%' || c == '#').step (depth, true) c = none := if_pos hrefused
        simp [hnone]
      | false => simp [Reader.read_cons, hkeep, htake, ih]
    · have hsame : (braceReader fun c => c == '%' || c == '#').step (depth, escaped) c =
          (braceReader fun _ => false).step (depth, escaped) c := by
        have hadmitted : (c == '%' || c == '#') = false := by
          rwa [← Bool.not_eq_true, Bool.or_eq_true, beq_iff_eq, beq_iff_eq]
        cases escaped with
        | true => simp only [braceReader, hadmitted]
        | false => rfl
      rw [if_neg hc, List.singleton_append, Reader.read_cons, hsame, marksTaken_cons]
      cases (braceReader fun _ => false).step (depth, escaped) c with
      | none => simp
      | some next => simp [hc, ih]

/-- A target is safe exactly when what is written for it is closed and has its `%` and `#` escaped. -/
theorem safeTarget_iff {s front : List Char} (hfront : front.getLast? = some '{') :
    SafeTarget s ↔ Closed (escapeUrl s) ∧ Shielded front (escapeUrl s) := by
  obtain ⟨front, rfl⟩ := List.getLast?_eq_some_iff.1 hfront
  rw [SafeTarget, read_escapeUrl_iff]
  refine and_congr_right (fun hclosed =>
    ⟨fun h before c after hsplit hc => ?_, fun h before c after hsplit hc r hr => ?_⟩)
  · have hread := hclosed
    rw [hsplit, Reader.read_append] at hread
    obtain ⟨r, hr, -⟩ := Option.bind_eq_some_iff.1 hread
    rw [List.append_assoc, List.singleton_append, backslashes_append_cons (by decide), ← escaped_iff_odd hr]
    exact h before c after hsplit hc r hr
  · have hodd := h before c after hsplit hc
    rw [List.append_assoc, List.singleton_append, backslashes_append_cons (by decide)] at hodd
    exact (escaped_iff_odd hr).2 hodd

end Tex

namespace Formatter

variable {f : Formatter} {x : Located} {href : String}

/-- What is written for a text leaf is closed, as long as its spacing is. -/
theorem closed_render_text (hspacing : ∀ command ∈ f.vspace.get? "text", Tex.Closed command.toList)
    (hname : x.node.name = "text")
    (hleaf : x.node.isLeaf = true) (n depth : Nat) : Tex.Closed (f.render n depth x) := by
  cases n with
  | zero => exact rfl
  | succ n =>
    have hrole : x.node.role = .text := Node.role_eq_text_iff.2 hname
    have hbody : Tex.Closed (f.renderNode (f.render n) depth x) := by
      obtain ⟨value, hvalue⟩ := Option.isSome_iff_exists.1 hleaf
      simp only [renderNode, hrole, renderText, hvalue]
      exact Tex.Closed.styled _ (Tex.Closed.escape _)
    have hspace : f.vspace? x.node = f.vspace.get? "text" := by rw [vspace?, hname]
    simp only [render, spaced, hspace]
    cases hcommand : f.vspace.get? "text" with
    | none => exact hbody
    | some command =>
      simp only
      split
      · exact hbody
      · have hbreak : Tex.Closed ['\n'] := rfl
        exact (hspacing command hcommand).append (hbreak.append hbody)

/-- A link is a command with its target as the first argument, and with closed text behind it, between other
commands. -/
theorem exists_renderLink (hrole : x.node.role = .link) (hhref : x.node.property "href" = some href)
    (htext : ∀ child ∈ x.node.children, child.name = "text" ∧ child.isLeaf = true)
    (hspacing : ∀ command ∈ f.vspace.get? "text", Tex.Closed command.toList) (n depth : Nat) :
    ∃ name rest, name ∈ ["href", "url"] ∧ Tex.Closed rest ∧
      f.renderNode (f.render n) depth x = Tex.styled x.node.classes
        (Tex.command name (Tex.escapeUrl href.toList) ++ rest) := by
  have hchildren : Tex.Closed (renderChildren (f.render n) depth x) := by
    refine Tex.Closed.flatMap (fun c hc => ?_)
    obtain ⟨hname, hleaf⟩ := htext c.node (Located.node_mem_of_mem_children hc)
    exact closed_render_text hspacing hname hleaf n depth
  simp only [renderNode, hrole, renderLink, hhref]
  split
  · exact ⟨"url", [], by decide, rfl, by rw [List.append_nil]⟩
  · exact ⟨"href", _, by decide, hchildren.group, rfl⟩

end Formatter

namespace Tex

variable {name : String} {target rest : List Char}

/-- The commands of style classes have no part in where the target stands. -/
theorem firstArgument?_styled (hname : name ∈ ["href", "url"]) (classes : List String) :
    firstArgument? ["href", "url"] (styled classes (command name target ++ rest)) = some target ↔ Closed target := by
  suffices h : ∀ after, firstArgument? ["href", "url"] (styled classes (command name target ++ rest) ++ after) =
    some target ↔
      Closed target by
    have hnil := h []
    rwa [List.append_nil] at hnil
  refine Markup.styled_of_style (P := fun s => ∀ after, firstArgument? ["href", "url"] (s ++ after) = some target ↔
    Closed target)
    (fun style hstyle s ih after => ?_) classes (fun after => ?_)
  · have hskip : firstArgument? ["href", "url"] (command style s ++ after) =
        firstArgument? ["href", "url"] (s ++ '}' :: after) := by
      rw [command, List.cons_append, List.append_assoc, List.cons_append, List.append_assoc, List.singleton_append]
      simp only [styleCommands, List.map_cons, List.map_nil, List.mem_cons, List.not_mem_nil, or_false] at hstyle
      rcases hstyle with rfl | rfl | rfl | rfl | rfl | rfl | rfl | rfl <;> rfl
    rw [hskip]
    exact ih _
  · have hopening : firstArgument? ["href", "url"] (command name target ++ rest ++ after) =
        argument? (0, false) (target ++ '}' :: (rest ++ after)) := by
      simp only [List.mem_cons, List.not_mem_nil, or_false] at hname
      have htext : command name target ++ rest ++ after = '\\' ::
          (name.toList ++ '{' :: (target ++ '}' :: (rest ++ after))) := by
        simp [command]
      rw [htext]
      rcases hname with rfl | rfl <;> rfl
    rw [hopening, argument?_eq_some_iff, Closed]

/-- Inside its style commands a link's target stands behind an opening brace. -/
theorem exists_front_styled (classes : List String) :
    ∃ front after, styled classes (command name target ++ rest) = front ++ (target ++ after) ∧
      front.getLast? = some '{' := by
  refine Markup.styled_of_style (P := fun s => ∃ front after, s = front ++ (target ++ after) ∧
    front.getLast? = some '{')
    (fun style _ s ih => ?_) classes
      ⟨'\\' :: (name.toList ++ ['{']), '}' :: rest, by simp [command], by simp [List.getLast?_cons]⟩
  obtain ⟨front, after, rfl, hfront⟩ := ih
  exact ⟨'\\' :: (style.toList ++ '{' :: front), after ++ ['}'], by simp [command],
    by simp [List.getLast?_cons, hfront]⟩

end Tex

/-- A link with text leaves in it, or without, and with any style classes, keeps its target in the argument exactly
when the target is safe: when its braces are balanced and no backslash in it takes a `%`, a `#` or the brace behind
it. -/
theorem link_keeps_target_iff (f : Formatter) (n depth : Nat) {x : Located} {href : String}
    (hrole : x.node.role = .link) (hhref : x.node.property "href" = some href)
    (htext : ∀ child ∈ x.node.children, child.name = "text" ∧ child.isLeaf = true)
    (hspacing : ∀ command ∈ f.vspace.get? "text", Tex.Closed command.toList) :
    Tex.KeepsTarget (Tex.escapeUrl href.toList) (f.renderNode (f.render n) depth x) ↔ Tex.SafeTarget href.toList := by
  obtain ⟨name, rest, hname, hrest, hlink⟩ := Formatter.exists_renderLink hrole hhref htext hspacing n depth
  rw [hlink]
  constructor
  · rintro ⟨-, hargument, front, after, -, hfront, hshielded⟩
    exact (Tex.safeTarget_iff hfront).2 ⟨(Tex.firstArgument?_styled hname _).1 hargument, hshielded⟩
  · intro hsafe
    obtain ⟨front, after, hsplit, hfront⟩ :
        ∃ front after, Tex.styled x.node.classes (Tex.command name (Tex.escapeUrl href.toList) ++ rest) =
        front ++ (Tex.escapeUrl href.toList ++ after) ∧ front.getLast? = some '{' :=
      Tex.exists_front_styled x.node.classes
    obtain ⟨hclosed, hshielded⟩ := (Tex.safeTarget_iff hfront).1 hsafe
    have hcommand : name ∈ Tex.commandNames := by
      simp only [List.mem_cons, List.not_mem_nil, or_false] at hname
      rcases hname with rfl | rfl <;> decide
    exact ⟨(Tex.Closed.styled _ ((hclosed.command hcommand).append hrest)).balanced,
      (Tex.firstArgument?_styled hname _).2 hclosed, front, after, hsplit, hfront, hshielded⟩

/-- An underlined link with a text. -/
def underlinedLink (href : String) : Node :=
  ({ name := "link", classes := ["underline"], content := .children [.text "50% off"] } : Node).withProperty "href" href

/-- The link as it is written. -/
def writtenLink (href : String) : List Char :=
  let f := Formatter.ofDocument { name := "article" } {} none
  f.renderNode (f.render f.fuel) 0 ⟨[], underlinedLink href⟩

/-- A link with a percent sign, a fragment and a group in its target. -/
theorem underlinedLink_keeps_target :
    Tex.SafeTarget "https://x.org/a%20b#\x7bfrag\x7d".toList ∧
      Tex.KeepsTarget "https://x.org/a\\%20b\\#\x7bfrag\x7d".toList
        (writtenLink "https://x.org/a%20b#\x7bfrag\x7d") := by
  have hsafe : Tex.SafeTarget "https://x.org/a%20b#\x7bfrag\x7d".toList := by decide
  have htarget : Tex.escapeUrl "https://x.org/a%20b#\x7bfrag\x7d".toList =
    "https://x.org/a\\%20b\\#\x7bfrag\x7d".toList := by decide
  have htext : ∀ child ∈ (underlinedLink "https://x.org/a%20b#\x7bfrag\x7d").children, child.name = "text" ∧
      child.isLeaf = true := by
    intro child hchild
    obtain rfl := List.mem_singleton.1 hchild
    exact ⟨rfl, rfl⟩
  refine ⟨hsafe, ?_⟩
  rw [← htarget]
  exact (link_keeps_target_iff (Formatter.ofDocument { name := "article" } {} none) _ 0
    (x := ⟨[], underlinedLink "https://x.org/a%20b#\x7bfrag\x7d"⟩) rfl (by decide) htext nofun).2 hsafe

/-- A backslash in front of `%` leaves it a comment that swallows the rest of the line, a brace ends the argument
before its time, and a backslash at the end takes the closing brace. -/
theorem link_target_breaks_out :
    writtenLink "a\\%b" = "\\underline\x7b\\href\x7ba\\\\%b\x7d\x7b50\\% off\x7d\x7d".toList ∧
      ¬Tex.KeepsTarget (Tex.escapeUrl "a\\%b".toList) (writtenLink "a\\%b") ∧
      ¬Tex.KeepsTarget (Tex.escapeUrl "a\x7db".toList) (writtenLink "a\x7db") ∧
      ¬Tex.KeepsTarget (Tex.escapeUrl "a\\".toList) (writtenLink "a\\") := by
  have hbalanced : ∀ href ∈ ["a\x7db", "a\\"], ¬Tex.Balanced (writtenLink href) := by decide +kernel
  refine ⟨by decide +kernel, fun h => ?_, fun h => hbalanced _ (by decide) h.balanced,
    fun h => hbalanced _ (by decide) h.balanced⟩
  obtain ⟨front, -, -, hfront, hshielded⟩ := h.shielded
  obtain ⟨front, rfl⟩ := List.getLast?_eq_some_iff.1 hfront
  have hodd := hshielded "a\\\\".toList '%' "b".toList (by decide) (Or.inl rfl)
  rw [List.append_assoc, List.singleton_append, Tex.backslashes_append_cons (by decide)] at hodd
  exact absurd hodd (by decide)

end Manuscript
