import Manuscript.Proofs.CellText
import Manuscript.Proofs.Listing
import Manuscript.Proofs.LiteralText

/-!
# The rows of a tabular

A tabular is read as TeX reads it: cut into rows, the rules taken off, and each row cut into cells. Where the cells
of a table hold text only, with styles, what is read are the trimmed texts of its cells, row by row
(`Formatter.tabular_decoded`). What is rendered of such text can stand in a cell (`Formatter.linked_render`), and
the rows are read one by one from what stands above them (`Formatter.exists_rowsOf`).
-/

namespace Manuscript

/-- The roles of the nodes that text in a cell is made of. -/
def Role.isCellText : Role → Bool
  | .text | .span | .emphasis | .strong | .code | .paragraph | .container => true
  | _ => false

/-- The rows among the children of a table. -/
def Located.rows (table : Located) : List Located :=
  table.children.filter (fun child => child.node.isRow)

namespace Formatter

open Tex

variable {f : Formatter} {render : Renderer} {x row : Located} {rows : List Located}

/-! ## Cell text -/

/-- Children whose texts are linked are linked when joined. -/
theorem linked_renderChildren {depth : Nat} (h : ∀ c ∈ x.children, Linked cellLink (render depth c)) :
    Linked cellLink (renderChildren render depth x) :=
  Linked.flatMap cellLink_seams (by decide) h

/-- Linked text stays so in its style commands. -/
theorem linked_renderText {depth : Nat} (h : ∀ c ∈ x.children, Linked cellLink (render depth c)) :
    Linked cellLink (renderText render depth x) := by
  unfold renderText
  split
  · exact linked_escape _
  · exact linked_renderChildren h

/-- A node of cell text is linked when its children are. -/
theorem linked_renderNode {depth : Nat} (hrole : x.node.role.isCellText = true)
    (h : ∀ c ∈ x.children, Linked cellLink (render depth c)) : Linked cellLink (f.renderNode render depth x) := by
  have hchildren := linked_renderChildren h
  rw [renderNode]
  generalize x.node.role = role at hrole ⊢
  cases role with
  | text => exact linked_styled _ (linked_renderText h)
  | paragraph => exact linked_block (hchildren.trim cellLink_seams)
  | span => exact linked_styled _ hchildren
  | emphasis | strong => exact linked_styled _ (linked_command (by decide) hchildren)
  | code => exact linked_styled _ (linked_command (by decide) (linked_escape _))
  | container => exact hchildren
  | _ => cases hrole

/-- What is rendered of text can stand in a cell. The induction is on the depth that is left. -/
theorem linked_render (n depth : Nat) (h : ∀ y ∈ x.subtree, y.node.role.isCellText = true ∧ f.vspace? y.node = none) :
    Linked cellLink (f.render n depth x) := by
  induction n generalizing x with
  | zero => exact (by decide : Linked cellLink [])
  | succ n ih =>
    obtain ⟨hrole, hspace⟩ := h x x.mem_subtree
    rw [render_succ hspace]
    refine linked_renderNode hrole (fun c hc => ih (fun y hy => ?_))
    exact h y (Located.mem_subtree_of_mem_children hc hy)

/-! ## Rows -/

/-- The texts of the cells of a row. -/
def cellTexts (render : Renderer) (depth : Nat) (row : Located) : List (List Char) :=
  row.children.map (fun cell => Text.trim (renderChildren render depth cell))

/-- The pieces of a tabular between the ends of its rows, with the rows as which they are read. A piece begins with
the rules above its row, so whether there is one below a row is seen at the next piece; the last piece has nothing
but rules. -/
inductive RowsOf (render : Renderer) (depth : Nat) : List Located → List (List Char) → Prop where
  | closing {piece : List Char} : belowRules piece = [] → RowsOf render depth [] [piece]
  | row {row : Located} {rest : List Located} {piece next : List Char} {pieces : List (List Char)} :
      (cutCells ' ' (belowRules piece)).map Text.trim = cellTexts render depth row →
      (0 < rulesAbove next ↔
        row.node.hasClass "header" = true ∨ (∃ cell ∈ row.node.children, cell.name = "th") ∨ rest = []) →
      RowsOf render depth rest (next :: pieces) →
      RowsOf render depth (row :: rest) (piece :: next :: pieces)

/-- The number of rules below a row on its own account. -/
def rulesBelow (row : Located) : Nat :=
  if row.node.hasClass "header" || row.node.children.any (fun cell => cell.name == "th") then 1 else 0

/-- A rule stands below a row of headings, by class or by one of its cells. -/
theorem rulesBelow_pos_iff (row : Located) :
    0 < rulesBelow row ↔ row.node.hasClass "header" = true ∨ ∃ cell ∈ row.node.children, cell.name = "th" := by
  unfold rulesBelow
  split
  · rename_i hheader
    simpa using hheader
  · rename_i hheader
    simpa using hheader

/-- A row is its cells between ampersands, the end of the row, and what rules it has below it. -/
theorem renderRow_eq (render : Renderer) (depth : Nat) (row : Located) :
    renderRow render depth row =
      (Text.joinWith " & ".toList (cellTexts render depth row) ++ [' ']) ++ '\\' :: '\\' :: ruled (rulesBelow row) := by
  simp only [renderRow, rulesBelow, cellTexts, List.append_assoc]
  split
  · rfl
  · rfl

/-- The text of a row, which ends in a blank: it has no end of a row in it and no rule above it, and it is cut into
its cells. -/
theorem rowText_spec {depth : Nat} (hne : row.children ≠ [])
    (h : ∀ cell ∈ row.children, Linked cellLink (renderChildren render depth cell)) :
    let text := Text.joinWith " & ".toList (cellTexts render depth row) ++ [' ']
    Linked rowLink text ∧ (rulesAbove text = 0 ∧ belowRules text = text) ∧
      (cutCells ' ' text).map Text.trim = cellTexts render depth row := by
  have hcells : ∀ text ∈ cellTexts render depth row, Linked cellLink text := by
    intro text hmem
    obtain ⟨cell, hcell, rfl⟩ := List.mem_map.1 hmem
    exact (h cell hcell).trim cellLink_seams
  refine ⟨?_, ?_, ?_⟩
  · have hjoined := Linked.joinWith rowLink_seams (by decide) (by decide : Linked rowLink " & ".toList)
      (fun text hmem => linked_rowLink (hcells text hmem))
    exact hjoined.append rowLink_seams (by decide)
  · -- Behind the first cell stands a blank, of an ampersand or of the end of the row.
    obtain ⟨first, rest, hchildren⟩ := List.exists_cons_of_ne_nil hne
    rw [hchildren] at h
    obtain ⟨more, htext⟩ : ∃ more, Text.joinWith " & ".toList (cellTexts render depth row) ++ [' '] =
        Text.trim (renderChildren render depth first) ++ ' ' :: more := by
      unfold cellTexts
      rw [hchildren, List.map_cons]
      cases rest with
      | nil => exact ⟨[], by rw [List.map_nil, Text.joinWith_singleton]⟩
      | cons next others =>
        rw [List.map_cons, Text.joinWith_cons_cons, List.append_assoc]
        exact ⟨_, rfl⟩
    rw [htext]
    exact no_rules_trim (h first List.mem_cons_self) more
  · have hcut := map_trim_cutCells (mt List.map_eq_nil_iff.1 hne) hcells (by decide : ' ' ≠ '\\')
    refine hcut.trans ?_
    unfold cellTexts
    rw [List.map_map]
    exact List.map_congr_left (fun cell _ => Text.trim_trim (renderChildren render depth cell))

/-- The rows of a tabular are read from the text with which they begin. The induction is on the rows, with the
number of rules above the first of them. -/
theorem exists_rowsOf {depth : Nat} (hne : ∀ row ∈ rows, row.children ≠ [])
    (h : ∀ row ∈ rows, ∀ cell ∈ row.children, Linked cellLink (renderChildren render depth cell)) (count : Nat) :
    ∃ piece pieces,
      cutRows (ruled count ++ (rows.flatMap (renderRow render depth) ++ "\\hline\n".toList)) = piece :: pieces ∧
      rulesAbove piece = count + (if rows = [] then 1 else 0) ∧ RowsOf render depth rows (piece :: pieces) := by
  induction rows generalizing count with
  | nil =>
    have hrules : rulesAbove (ruled (count + 1)) = count + 1 ∧ belowRules (ruled (count + 1)) = [] := by
      have habove := rulesAbove_ruled (count + 1) []
      have hbelow := belowRules_ruled (count + 1) []
      rw [List.append_nil] at habove hbelow
      exact ⟨habove, hbelow⟩
    exact ⟨ruled (count + 1), [], cutRows_of_isChain (linked_ruled (count + 1)).of_cons, hrules.1, .closing hrules.2⟩
  | cons row rest ih =>
    rw [List.forall_mem_cons] at hne h
    obtain ⟨hlinked, ⟨habove, hbelow⟩, hcells⟩ := rowText_spec hne.1 h.1
    obtain ⟨next, pieces, hcut, hrules, hrows⟩ := ih hne.2 h.2 (rulesBelow row)
    refine ⟨ruled count ++ (Text.joinWith " & ".toList (cellTexts render depth row) ++ [' ']), next :: pieces, ?_,
      ?_, ?_⟩
    · have hpiece := (linked_ruled count).append rowLink_seams hlinked
      rw [← hcut, ← cutRows_append_of_isChain hpiece.of_cons, List.flatMap_cons, renderRow_eq]
      simp only [List.append_assoc, List.cons_append]
    · rw [rulesAbove_ruled, habove, if_neg (List.cons_ne_nil row rest)]
    · refine .row ?_ ?_ hrows
      · rw [belowRules_ruled, hbelow, hcells]
      · rw [hrules, ← or_assoc, ← rulesBelow_pos_iff]
        split
        · rename_i hlast
          simp [hlast]
        · rename_i hlast
          simp [hlast]

/-! ## Tabulars -/

/-- A tabular has a column for each cell of its longest row. -/
theorem columns_spec (hne : rows ≠ []) :
    let columns := (rows.map (fun row => row.node.children.length)).foldl max 0
    (∀ row ∈ rows, row.node.children.length ≤ columns) ∧ ∃ row ∈ rows, row.node.children.length = columns := by
  obtain ⟨first, rest, rfl⟩ := List.exists_cons_of_ne_nil hne
  intro columns
  have hmax : ((first :: rest).map (fun row => row.node.children.length)).max? = some columns := by
    show _ = some (((first :: rest).map (fun row => row.node.children.length)).foldl max 0)
    rw [List.map_cons, List.max?_cons', List.foldl_cons, Nat.zero_max]
  obtain ⟨hmem, hle⟩ := List.max?_eq_some_iff.1 hmax
  obtain ⟨row, hrow, hlength⟩ := List.mem_map.1 hmem
  exact ⟨fun row hrow => hle _ (List.mem_map_of_mem hrow), row, hrow, hlength⟩

/-- A tabular is its columns and its rows, with a rule above the first and one below the last. -/
theorem renderTabular_eq (render : Renderer) (depth : Nat) (rows : List Located) :
    renderTabular render depth rows = "\\begin\x7btabular\x7d\x7b".toList ++
      (List.replicate ((rows.map (fun row => row.node.children.length)).foldl max 0) 'l' ++
        '}' :: (ruled 1 ++ (rows.flatMap (renderRow render depth) ++ "\\hline\n".toList) ++
          "\\end\x7btabular\x7d\n".toList)) := by
  have hbody : ∀ lines : List Char, "\x7d\n\\hline\n".toList ++ (lines ++ "\\hline\n\\end\x7btabular\x7d\n".toList) =
      '}' :: (ruled 1 ++ (lines ++ "\\hline\n".toList) ++ "\\end\x7btabular\x7d\n".toList) := by
    intro lines
    simp [ruled]
  unfold renderTabular
  rw [List.append_right_inj, List.append_right_inj]
  exact hbody _

/-- What is between the columns of a tabular and its end is read as the rows of the table, and no row has more cells
than there are columns. -/
theorem tabular_decoded (f : Formatter) (fuel depth : Nat) (table : Located) (hrows : table.rows ≠ [])
    (hcells : ∀ row ∈ table.rows, row.node.children ≠ [])
    (htext : ∀ row ∈ table.rows, ∀ cell ∈ row.children, ∀ x ∈ cell.children, ∀ y ∈ x.subtree,
      y.node.role.isCellText = true ∧ f.vspace? y.node = none) :
    ∃ columns body,
      renderTabular (f.render fuel) depth table.rows = "\\begin\x7btabular\x7d\x7b".toList ++
        (List.replicate columns 'l' ++ '}' :: (body ++ "\\end\x7btabular\x7d\n".toList)) ∧
      (∀ row ∈ table.rows, row.node.children.length ≤ columns) ∧
      (∃ row ∈ table.rows, row.node.children.length = columns) ∧
      RowsOf (f.render fuel) depth table.rows (cutRows body) := by
  have hlinked : ∀ row ∈ table.rows, ∀ cell ∈ row.children,
      Linked cellLink (renderChildren (f.render fuel) depth cell) :=
    fun row hrow cell hcell =>
      linked_renderChildren (fun x hx => linked_render fuel depth (htext row hrow cell hcell x hx))
  have hne : ∀ row ∈ table.rows, row.children ≠ [] := by
    intro row hrow hnil
    refine hcells row hrow ?_
    rw [← Node.map_node_siblings row.path 0 row.node.children, ← Located.children, hnil]
    rfl
  obtain ⟨piece, pieces, hcut, -, hread⟩ := exists_rowsOf hne hlinked 1
  obtain ⟨hle, hmax⟩ := columns_spec hrows
  rw [← hcut] at hread
  exact ⟨_, _, renderTabular_eq _ depth table.rows, hle, hmax, hread⟩

/-- A table with a header, rows of different lengths, an empty cell, and cells with ampersands and backslashes, in
styles and not. -/
def budgetTable : Located where
  path := [0]
  node :=
    { name := "table"
      content := .children
        [{ name := "caption", content := .children [.text "Budget"] },
          { name := "tr"
            content := .children
              [{ name := "th", content := .children [.text " Item"] },
                { name := "th", content := .children [.text "Share %"] }] },
          { name := "row"
            content := .children
              [{ name := "td" },
                { name := "td", content := .children [.text "R&D\\\\ "] },
                { name := "td"
                  content := .children
                    [{ name := "p"
                       content := .children [{ name := "em", content := .children [.text "\\hline"] }] }] }] },
          { name := "row"
            content := .children
              [{ name := "td"
                 content := .children
                  [{ name := "span", classes := ["bold"], content := .children [.text "&"] },
                    { name := "code", content := .value "& &" }] }] }] }

/-- A table with rows of unequal length and cells full of signs. -/
theorem budgetTable_decoded :
    budgetTable.rows.map (cellTexts ((ofDocument budgetTable.node {} none).render 5) 1) =
        [["Item".toList, "Share \\%".toList],
          [[], "R\\&D\\textbackslash\x7b\x7d\\textbackslash\x7b\x7d".toList,
            "\\emph\x7b\\textbackslash\x7b\x7dhline\x7d".toList],
          ["\\textbf\x7b\\&\x7d\\texttt\x7b\\& \\&\x7d".toList]] ∧
      ∃ columns body,
        renderTabular ((ofDocument budgetTable.node {} none).render 5) 1 budgetTable.rows =
          "\\begin\x7btabular\x7d\x7b".toList ++
          (List.replicate columns 'l' ++ '}' :: (body ++ "\\end\x7btabular\x7d\n".toList)) ∧
        (∀ row ∈ budgetTable.rows, row.node.children.length ≤ columns) ∧
        (∃ row ∈ budgetTable.rows, row.node.children.length = columns) ∧
        RowsOf ((ofDocument budgetTable.node {} none).render 5) 1 budgetTable.rows (cutRows body) :=
  ⟨by decide +kernel, tabular_decoded (ofDocument budgetTable.node {} none) 5 1 budgetTable (by decide +kernel)
    (by decide +kernel) (by decide +kernel)⟩

end Formatter

end Manuscript
