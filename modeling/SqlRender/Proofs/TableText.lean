import SqlRender.Command.Table

/-!
# Proofs/TableText — every cell of a table is printed

A row of a table takes as many lines as its highest cell. On each of them the lines of its cells
stand side by side, in the order of the cells (`Table.Shows`). The frame around them has no line
breaks, so the lines of the printed table are exactly the rules and the lines of the rows
(`Table.cellLines_render`), and each row is shown (`Table.shows_render`).
-/

namespace SqlRender.Table

/-! ## Lines -/

/-- Even the empty text has a line. -/
theorem lines_ne_nil (cs : List Char) : lines cs ≠ [] := by
  cases cs with
  | nil => simp [lines]
  | cons c cs =>
    rw [lines]
    split
    · simp
    · split <;> simp

/-- A character that is no break belongs to the first line. -/
theorem lines_cons {c : Char} (hc : c ≠ '\n') {cs l : List Char} {ls : List (List Char)}
    (h : lines cs = l :: ls) : lines (c :: cs) = (c :: l) :: ls := by
  rw [lines, if_neg hc, h]

/-- No line has a line break. -/
theorem not_mem_lines {cs l : List Char} (h : l ∈ lines cs) : '\n' ∉ l := by
  induction cs generalizing l with
  | nil => simp_all [lines]
  | cons c cs ih =>
    by_cases hc : c = '\n'
    · rw [lines, if_pos hc, List.mem_cons] at h
      rcases h with rfl | h
      · simp
      · exact ih h
    · obtain ⟨first, rest, hlines⟩ := List.exists_cons_of_ne_nil (lines_ne_nil cs)
      rw [lines_cons hc hlines, List.mem_cons] at h
      rcases h with rfl | h
      · exact List.not_mem_cons_of_ne_of_not_mem (Ne.symm hc) (ih (by simp [hlines]))
      · exact ih (by simp [hlines, h])

theorem lines_of_not_mem {l : List Char} (h : '\n' ∉ l) : lines l = [l] := by
  induction l with
  | nil => rfl
  | cons c l ih =>
    rw [List.mem_cons, not_or] at h
    exact lines_cons (Ne.symm h.1) (ih h.2)

/-- A break ends the line in front of it. -/
theorem lines_append_break {l : List Char} (h : '\n' ∉ l) (rest : List Char) :
    lines (l ++ '\n' :: rest) = l :: lines rest := by
  induction l with
  | nil => rw [List.nil_append, lines, if_pos rfl]
  | cons c l ih =>
    rw [List.mem_cons, not_or] at h
    exact lines_cons (Ne.symm h.1) (ih h.2)

/-- A break at the end is followed by an empty line. -/
theorem lines_append_last (cs : List Char) : lines (cs ++ ['\n']) = lines cs ++ [[]] := by
  induction cs with
  | nil => rfl
  | cons c cs ih =>
    by_cases hc : c = '\n'
    · rw [List.cons_append, lines, if_pos hc, ih, lines, if_pos hc, List.cons_append]
    · obtain ⟨first, rest, hlines⟩ := List.exists_cons_of_ne_nil (lines_ne_nil cs)
      rw [hlines] at ih
      rw [List.cons_append, lines_cons hc ih, lines_cons hc hlines]
      rfl

/-- Lines that are joined are found again. -/
theorem cellLines_intercalate : ∀ {ls : List String}, ls ≠ [] → (∀ l ∈ ls, '\n' ∉ l.toList) →
    cellLines ("\n".intercalate ls) = ls
  | [], hne, _ => absurd rfl hne
  | [l], _, h => by
      rw [String.intercalate_singleton, cellLines, lines_of_not_mem (h l (by simp)),
        List.map_singleton, String.ofList_toList]
  | l :: l' :: ls, _, h => by
      have ih := cellLines_intercalate (List.cons_ne_nil l' ls)
        fun x hx => h x (List.mem_cons_of_mem l hx)
      have hjoin : ("\n".intercalate (l :: l' :: ls)).toList
          = l.toList ++ '\n' :: ("\n".intercalate (l' :: ls)).toList := by
        rw [String.intercalate_cons_of_ne_nil (by simp), String.toList_append,
          String.toList_append, List.append_assoc]
        rfl
      rw [cellLines, hjoin, lines_append_break (h l (by simp)), List.map_cons,
        String.ofList_toList]
      exact congrArg (l :: ·) ih

/-- The lines of a cell hold no break. -/
theorem not_mem_cellLines {s l : String} (h : l ∈ cellLines s) : '\n' ∉ l.toList := by
  obtain ⟨cs, hcs, rfl⟩ := List.mem_map.mp h
  rw [String.toList_ofList]
  exact not_mem_lines hcs

theorem not_mem_getD_cellLines (s : String) (i : Nat) :
    '\n' ∉ ((cellLines s)[i]?.getD "").toList := by
  cases h : (cellLines s)[i]? with
  | none => simp
  | some l => exact not_mem_cellLines (List.mem_of_getElem? h)

/-- So lines that are put side by side hold none. -/
theorem not_mem_intercalate {sep : String} (hsep : '\n' ∉ sep.toList) : ∀ {ls : List String},
    (∀ l ∈ ls, '\n' ∉ l.toList) → '\n' ∉ (sep.intercalate ls).toList
  | [], _ => by simp
  | [l], h => by
      rw [String.intercalate_singleton]
      exact h l (by simp)
  | l :: l' :: ls, h => by
      have ih := not_mem_intercalate hsep fun x hx => h x (List.mem_cons_of_mem l hx)
      rw [String.intercalate_cons_of_ne_nil (by simp), String.toList_append, String.toList_append]
      simp only [List.mem_append, not_or]
      exact ⟨⟨h l (by simp), hsep⟩, ih⟩

/-- A rule is one line. -/
theorem not_mem_rule {left middle right : String} (hleft : '\n' ∉ left.toList)
    (hmiddle : '\n' ∉ middle.toList) (hright : '\n' ∉ right.toList) (ws : List Nat) :
    '\n' ∉ (rule left middle right ws).toList := by
  have hbars : '\n' ∉ (middle.intercalate
      (ws.map fun w => String.ofList (List.replicate (w + 2) '─'))).toList := by
    refine not_mem_intercalate hmiddle fun l hl => ?_
    obtain ⟨w, _, rfl⟩ := List.mem_map.mp hl
    simp
  rw [rule, String.toList_append, String.toList_append]
  simp only [List.mem_append, not_or]
  exact ⟨⟨hleft, hbars⟩, hright⟩

/-- Each line of a row is one line. -/
theorem not_mem_rowLines {ws : List Nat} {row : List String} {line : String}
    (h : line ∈ rowLines ws row) : '\n' ∉ line.toList := by
  obtain ⟨i, _, rfl⟩ := List.mem_map.mp h
  have hcells : '\n' ∉ ("│".intercalate (ws.zipWith (fun w ls => pad w (ls.getD i ""))
      (row.map cellLines))).toList := by
    refine not_mem_intercalate (by decide) fun l hl => ?_
    rw [← List.map_uncurry_zip_eq_zipWith] at hl
    obtain ⟨⟨w, cell⟩, hcell, rfl⟩ := List.mem_map.mp hl
    obtain ⟨s, _, rfl⟩ := List.mem_map.mp (List.of_mem_zip hcell).2
    simp [pad, not_mem_getD_cellLines]
  simp only [String.toList_append, List.mem_append, not_or]
  exact ⟨⟨by decide, hcells⟩, by decide⟩

/-- The lines of a printed table are its rules and the lines of its rows. -/
theorem cellLines_render (header : List String) (rows : List (List String)) :
    cellLines (render header rows)
      = rule "╭" "┬" "╮" (widths (header :: rows)) :: rowLines (widths (header :: rows)) header ++
        rule "├" "┼" "┤" (widths (header :: rows)) ::
          rows.flatMap (rowLines (widths (header :: rows))) ++
        [rule "╰" "┴" "╯" (widths (header :: rows))] := by
  refine (cellLines_intercalate (by simp) fun l hl => ?_).trans (by simp)
  simp only [List.mem_append, List.mem_singleton, List.mem_flatMap] at hl
  rcases hl with (((rfl | hl) | rfl) | ⟨row, _, hl⟩) | rfl
  · exact not_mem_rule (by decide) (by decide) (by decide) _
  · exact not_mem_rowLines hl
  · exact not_mem_rule (by decide) (by decide) (by decide) _
  · exact not_mem_rowLines hl
  · exact not_mem_rule (by decide) (by decide) (by decide) _

/-! ## Rows -/

/-- The texts stand in the line from left to right, each behind the other. -/
def InLine : List String → String → Prop
  | [], _ => True
  | t :: ts, line => ∃ before after, line = before ++ t ++ after ∧ InLine ts after

/-- Texts that stand in a line do so behind more text. -/
theorem InLine.prepend {line : String} : ∀ {ts : List String}, InLine ts line →
    ∀ front : String, InLine ts (front ++ line)
  | [], _, _ => trivial
  | _ :: _, ⟨before, after, hline, hrest⟩, front =>
    ⟨front ++ before, after, by rw [hline]; simp only [String.append_assoc], hrest⟩

/-- Cells under their columns stand side by side. -/
theorem inLine_cells (text : String → String) (tail : String) : ∀ {ws : List Nat}
    {row : List String}, ws.length = row.length →
    InLine (row.map text)
      ("│".intercalate (ws.zipWith (fun w cell => pad w (text cell)) row) ++ tail)
  | _, [], _ => trivial
  | [w], [cell], _ => by
      refine ⟨" ", String.ofList (List.replicate (w - width (text cell)) ' ') ++ " " ++ tail, ?_,
        trivial⟩
      simp only [List.zipWith_cons_cons, List.zipWith_nil_left, String.intercalate_singleton, pad,
        String.append_assoc]
  | w :: w' :: ws, cell :: cell' :: row, h => by
      have ih := inLine_cells text tail (Nat.succ.inj h)
      refine ⟨" ", _, ?_,
        ih.prepend (String.ofList (List.replicate (w - width (text cell)) ' ') ++ " " ++ "│")⟩
      rw [List.zipWith_cons_cons, String.intercalate_cons_of_ne_nil (by simp), pad]
      simp only [String.append_assoc]

/-- The text shows the cells of a row side by side: it has as many lines below each other as the
highest cell, and in the `i`-th of them stand the `i`-th lines of the cells. -/
def Shows (text : String) (row : List String) : Prop :=
  ∃ above shown below, cellLines text = above ++ shown ++ below ∧
    (∀ cell ∈ row, (cellLines cell).length ≤ shown.length) ∧
    ∀ i line, shown[i]? = some line → InLine (row.map fun cell => (cellLines cell).getD i "") line

/-- A line break behind the text adds an empty line below. -/
theorem Shows.append_break {text : String} {row : List String} (h : Shows text row) :
    Shows (text ++ "\n") row := by
  obtain ⟨above, shown, below, hlines, hcells⟩ := h
  refine ⟨above, shown, below ++ [""], ?_, hcells⟩
  have hbreak : cellLines (text ++ "\n") = cellLines text ++ [""] := by
    have hlast := congrArg (List.map String.ofList) (lines_append_last text.toList)
    rw [List.map_append] at hlast
    rw [cellLines, String.toList_append]
    exact hlast
  rw [hbreak, hlines, List.append_assoc]

/-- The lines of a row show its cells. -/
theorem inLine_of_rowLines {ws : List Nat} {row : List String} (h : ws.length = row.length)
    {i : Nat} {line : String} (hline : (rowLines ws row)[i]? = some line) :
    InLine (row.map fun cell => (cellLines cell).getD i "") line := by
  rw [rowLines, List.getElem?_map, Option.map_eq_some_iff] at hline
  obtain ⟨j, hj, rfl⟩ := hline
  obtain ⟨_, rfl⟩ := List.getElem?_eq_some_iff.mp hj
  rw [List.getElem_range, List.zipWith_map_right, String.append_assoc]
  exact (inLine_cells (fun cell => (cellLines cell).getD i "") "│" h).prepend "│"

/-- The height of a row: the largest count of lines, and at least `n`. -/
theorem le_foldl_max : ∀ (cells : List (List String)) (n : Nat),
    n ≤ cells.foldl (fun h ls => max h ls.length) n ∧
      ∀ ls ∈ cells, ls.length ≤ cells.foldl (fun h ls => max h ls.length) n
  | [], n => by simp
  | ls :: cells, n => by
      obtain ⟨hstart, hcells⟩ := le_foldl_max cells (max n ls.length)
      rw [List.foldl_cons, List.forall_mem_cons]
      exact ⟨Nat.le_trans (Nat.le_max_left ..) hstart,
        Nat.le_trans (Nat.le_max_right ..) hstart, hcells⟩

/-- A row has a line for every line of each of its cells. -/
theorem length_le_rowLines (ws : List Nat) {row : List String} {cell : String} (h : cell ∈ row) :
    (cellLines cell).length ≤ (rowLines ws row).length := by
  rw [rowLines, List.length_map, List.length_range]
  exact (le_foldl_max (row.map cellLines) 0).2 _ (List.mem_map_of_mem h)

/-- There is a column for each cell of the header. -/
theorem length_widths {header : List String} {rows : List (List String)}
    (h : ∀ r ∈ rows, r.length = header.length) :
    (widths (header :: rows)).length = header.length := by
  have hfold : ∀ (rows : List (List String)) (ws : List Nat), (∀ r ∈ rows, r.length = ws.length) →
      (rows.foldl (fun ws row => ws.zipWith max (row.map cellWidth)) ws).length = ws.length := by
    intro rows
    induction rows with
    | nil => simp
    | cons r rows ih =>
      intro ws hws
      obtain ⟨hr, hrows⟩ := List.forall_mem_cons.mp hws
      have hlength : (ws.zipWith max (r.map cellWidth)).length = ws.length := by simp [hr]
      rw [List.foldl_cons, ih _ (hlength.symm ▸ hrows), hlength]
  rw [widths, hfold, List.headD_cons, List.length_map]
  rw [List.headD_cons, List.length_map]
  exact List.forall_mem_cons.mpr ⟨rfl, h⟩

/-- **A table shows every row** that has as many cells as its header. -/
theorem shows_render {header : List String} {rows : List (List String)} {row : List String}
    (hwidth : ∀ r ∈ rows, r.length = header.length) (hrow : row ∈ rows) :
    Shows (render header rows) row := by
  obtain ⟨front, back, hrows⟩ := List.append_of_mem hrow
  have hws : (widths (header :: rows)).length = row.length :=
    (length_widths hwidth).trans (hwidth row hrow).symm
  generalize hw : widths (header :: rows) = ws at hws
  refine ⟨rule "╭" "┬" "╮" ws :: rowLines ws header ++ rule "├" "┼" "┤" ws ::
    front.flatMap (rowLines ws), rowLines ws row, back.flatMap (rowLines ws) ++
    [rule "╰" "┴" "╯" ws], ?_, fun cell hcell => length_le_rowLines ws hcell,
    fun i line hline => inLine_of_rowLines hws hline⟩
  rw [cellLines_render, hw, hrows]
  simp

end SqlRender.Table
