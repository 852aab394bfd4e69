import ExprMigration.Report.Table
import ExprMigration.Proofs.FileTree.Relative
import ExprMigration.Proofs.Text.Width
import Mathlib

/-!
# Aligned tables

Every line of a table is a row of fields between characters of box lines, so that its width is that of its
fields and one column for each such character (`measure_fields`), however the texts in the fields are
measured, as long as blanks and box lines keep them apart (`Text.IsAdditive`).  The fields of a line are as
wide as the columns, which are as wide as their widest header or cell (`cellWidths_eq`) but for the last
one, which takes what the title needs.  The padding of a cell is what is missing to the width of its column:
nothing of a cell is cut off, and the cells of a column begin at the same place in every line
(`standAt_rowLine`).
-/

namespace ExprMigration

/-! ## Additive measures -/

namespace Text.IsAdditive

variable {measure : Text → Nat} {c left right sep : Char}

theorem measure_nil (h : IsAdditive measure) : measure [] = 0 := by
  have happend := h.append [] [] ' ' (by decide)
  simp only [List.nil_append] at happend
  omega

theorem measure_cons (h : IsAdditive measure) (hc : c ∈ Text.frame) (t : Text) :
    measure (c :: t) = 1 + measure t := by
  have happend := h.append [] t c hc
  rwa [List.nil_append, h.measure_nil, h.frame c hc, Nat.zero_add] at happend

theorem measure_concat (h : IsAdditive measure) (hc : c ∈ Text.frame) (t : Text) :
    measure (t ++ [c]) = measure t + 1 := by
  rw [h.append t [] c hc, h.measure_nil, h.frame c hc, Nat.add_zero]

theorem measure_append_replicate (h : IsAdditive measure) (hc : c ∈ Text.frame) (t : Text) (n : Nat) :
    measure (t ++ List.replicate n c) = measure t + n := by
  induction n with
  | zero => rw [List.replicate_zero, List.append_nil, Nat.add_zero]
  | succ n ih => rw [List.replicate_succ', ← List.append_assoc, h.measure_concat hc, ih, Nat.add_assoc]

theorem measure_join (h : IsAdditive measure) (hsep : sep ∈ Text.frame) (pieces : List Text) :
    measure (join [sep] pieces) = (pieces.map measure).sum + (pieces.length - 1) := by
  induction pieces with
  | nil => simpa [join] using h.measure_nil
  | cons piece rest ih =>
    cases rest with
    | nil => simp [join]
    | cons next rest =>
      rw [join_cons_cons, List.append_assoc, List.singleton_append, h.append _ _ _ hsep, h.frame _ hsep, ih]
      simp only [List.map_cons, List.sum_cons, List.length_cons]
      omega

/-- Fields with box lines between them, in front of them and behind them. -/
theorem measure_fields (h : IsAdditive measure) (hleft : left ∈ Text.frame) (hsep : sep ∈ Text.frame)
    (hright : right ∈ Text.frame) (pieces : List Text) :
    measure (left :: join [sep] pieces ++ [right]) =
      2 + (pieces.map measure).sum + (pieces.length - 1) := by
  rw [h.measure_concat hright, h.measure_cons hleft, h.measure_join hsep]
  omega

end Text.IsAdditive

namespace Table

open Text (IsAdditive)

variable {measure : Text → Nat} {table : Table} {cells row : List Text} {ws : List Nat} {t : Text}
  {left middle right : Char} {column extra w : Nat}

/-! ## The widths of the columns -/

/-- The width of the widest header or cell of a column. -/
def columnWidth (measure : Text → Nat) (table : Table) (column : Nat) : Nat :=
  (((table.headers :: table.rows).filterMap (·[column]?)).map measure).foldr max 0

/-- The width of a whole table: its title or its columns with three places between each two, whichever is
wider, and two places at both ends. -/
def fullWidth (measure : Text → Nat) (table : Table) : Nat :=
  4 + max (measure table.title)
    (((List.range table.headers.length).map (table.columnWidth measure)).sum +
      3 * (table.headers.length - 1))

theorem getElem?_widen (measure : Text → Nat) (ws : List Nat) (cells : List Text) (column : Nat) :
    (widen measure ws cells)[column]? =
      ws[column]?.map (max · ((cells[column]?.map measure).getD 0)) := by
  induction ws, cells using widen.induct generalizing column with
  | case1 w ws cell cells ih =>
    cases column with
    | zero => simp [widen]
    | succ column => simpa [widen] using ih column
  | case2 ws cells hrest =>
    rcases ws with _ | ⟨w, ws⟩
    · simp [widen]
    · rcases cells with _ | ⟨cell, cells⟩
      · simp [widen]
      · exact absurd rfl (hrest w ws cell cells rfl)

/-- One row after the other widens a column to the widest of its cells. -/
theorem getElem?_foldl_widen (measure : Text → Nat) (rows : List (List Text)) (ws : List Nat)
    (column : Nat) : (rows.foldl (widen measure) ws)[column]? =
      ws[column]?.map (max · (((rows.filterMap (·[column]?)).map measure).foldr max 0)) := by
  induction rows generalizing ws with
  | nil => simp
  | cons row rows ih =>
    rw [List.foldl_cons, ih, getElem?_widen, Option.map_map]
    congr 1
    funext w
    cases hcell : row[column]? <;> simp [hcell, Nat.max_assoc]

theorem cellWidths_eq (measure : Text → Nat) (table : Table) :
    table.cellWidths measure = (List.range table.headers.length).map (table.columnWidth measure) := by
  refine List.ext_getElem? fun column => ?_
  rw [cellWidths, getElem?_foldl_widen, List.getElem?_map, List.getElem?_map]
  by_cases hcolumn : column < table.headers.length
  · simp [hcolumn, columnWidth]
  · simp [hcolumn]

/-- No header or cell is wider than its column. -/
theorem measure_le_columnWidth (hrow : row ∈ table.headers :: table.rows) (ht : row[column]? = some t) :
    measure t ≤ table.columnWidth measure column :=
  List.le_max_of_le' 0 (List.mem_map_of_mem (List.mem_filterMap.2 ⟨row, hrow, ht⟩)) le_rfl

theorem length_widenLast (extra : Nat) (ws : List Nat) : (widenLast extra ws).length = ws.length := by
  induction ws using widenLast.induct with
  | case1 => rfl
  | case2 => rfl
  | case3 w ws hws ih => simp [widenLast, ih]

theorem sum_widenLast (extra : Nat) (hws : ws ≠ []) : (widenLast extra ws).sum = ws.sum + extra := by
  induction ws using widenLast.induct with
  | case1 => exact absurd rfl hws
  | case2 w => simp [widenLast]
  | case3 w ws hne ih =>
    rw [widenLast, List.sum_cons, List.sum_cons, ih fun hnil => hne hnil, Nat.add_assoc]
    exact hne

theorem exists_le_of_widenLast (hw : (widenLast extra ws)[column]? = some w) :
    ∃ v ≤ w, ws[column]? = some v := by
  induction ws using widenLast.induct generalizing column with
  | case1 => simp [widenLast] at hw
  | case2 v =>
    cases column with
    | zero => exact ⟨v, (Nat.le_add_right v extra).trans (Option.some.inj hw).le, rfl⟩
    | succ column => simp [widenLast] at hw
  | case3 v ws hne ih =>
    rw [widenLast] at hw
    · cases column with
      | zero => exact ⟨v, (Option.some.inj hw).le, rfl⟩
      | succ column => exact ih hw
    · exact hne

theorem innerWidth_eq (ws : List Nat) : innerWidth ws = ws.sum + 3 * (ws.length - 1) := by
  rw [innerWidth, List.sum_eq_foldl]

/-- The width between the outer lines of a table. -/
def contentWidth (measure : Text → Nat) (table : Table) : Nat :=
  max (innerWidth (table.cellWidths measure)) (measure table.title)

theorem length_widths (measure : Text → Nat) (table : Table) :
    (table.widths measure).length = table.headers.length := by
  rw [widths, length_widenLast, cellWidths_eq, List.length_map, List.length_range]

theorem fullWidth_eq (measure : Text → Nat) (table : Table) :
    table.fullWidth measure = 4 + table.contentWidth measure := by
  rw [fullWidth, contentWidth, innerWidth_eq, cellWidths_eq, List.length_map, List.length_range, max_comm]

/-- The columns take the whole width, since the last one takes what the title needs. -/
theorem innerWidth_widths (hheaders : table.headers ≠ []) :
    innerWidth (table.widths measure) = table.contentWidth measure := by
  have hlength : (table.cellWidths measure).length = table.headers.length := by simp [cellWidths_eq]
  have hne : table.cellWidths measure ≠ [] := by simpa [cellWidths_eq] using hheaders
  rw [innerWidth_eq, length_widths, widths, sum_widenLast _ hne, contentWidth, innerWidth_eq, hlength]
  omega

/-- The cells of a row fit in columns of some widths. -/
def Fits (measure : Text → Nat) (ws : List Nat) (cells : List Text) : Prop :=
  ∀ (column w : Nat) (cell : Text), ws[column]? = some w → cells[column]? = some cell → measure cell ≤ w

theorem fits_widths (hrow : row ∈ table.headers :: table.rows) :
    Fits measure (table.widths measure) row := by
  intro column w cell hw hcell
  obtain ⟨v, hv, hcolumn⟩ := exists_le_of_widenLast hw
  obtain ⟨hlt, rfl⟩ := List.getElem?_eq_some_iff.1 hcolumn
  simp only [cellWidths_eq, List.getElem_map, List.getElem_range] at hv
  exact (measure_le_columnWidth hrow hcell).trans hv

/-! ## Lines -/

theorem measure_pad (h : IsAdditive measure) (hfits : measure t ≤ w) : measure (pad measure w t) = w := by
  rw [pad, h.measure_append_replicate (by decide)]
  omega

/-- A cell or title between blanks. -/
theorem measure_field (h : IsAdditive measure) (hfits : measure t ≤ w) :
    measure (' ' :: pad measure w t ++ [' ']) = w + 2 := by
  rw [h.measure_concat (by decide), h.measure_cons (by decide), measure_pad h hfits]
  omega

theorem measure_rule (h : IsAdditive measure) (n : Nat) : measure (rule n) = n + 2 := by
  simpa [rule, h.measure_nil] using h.measure_append_replicate (c := '─') (by decide) [] (n + 2)

theorem measure_paddedCells (h : IsAdditive measure) (hfits : Fits measure ws cells) :
    (paddedCells measure ws cells).map measure = ws.map (· + 2) := by
  induction ws, cells using paddedCells.induct with
  | case1 => rfl
  | case2 w ws ih =>
    have hempty : measure [] ≤ w := by simp [h.measure_nil]
    rw [paddedCells, List.map_cons, measure_field h hempty, ih (by simp [Fits]), List.map_cons]
  | case3 w ws cell cells ih =>
    have hrest : Fits measure ws cells := fun column => hfits (column + 1)
    rw [paddedCells, List.map_cons, measure_field h (hfits 0 w cell rfl rfl), ih hrest, List.map_cons]

/-- A line of fields that are as wide as the columns. -/
theorem measure_columns (h : IsAdditive measure) (hleft : left ∈ Text.frame) (hmiddle : middle ∈ Text.frame)
    (hright : right ∈ Text.frame) {pieces : List Text} (hpieces : pieces.map measure = ws.map (· + 2))
    (hws : ws ≠ []) : measure (left :: Text.join [middle] pieces ++ [right]) = 4 + innerWidth ws := by
  have hlength : pieces.length = ws.length := by simpa using congrArg List.length hpieces
  have hpos : 0 < ws.length := List.length_pos_iff.2 hws
  have hsum : (ws.map (· + 2)).sum = ws.sum + ws.length * 2 := by
    simp [List.sum_map_add]
  rw [h.measure_fields hleft hmiddle hright, hpieces, hsum, hlength, innerWidth_eq]
  omega

theorem measure_border (h : IsAdditive measure) (hleft : left ∈ Text.frame) (hmiddle : middle ∈ Text.frame)
    (hright : right ∈ Text.frame) (hws : ws ≠ []) :
    measure (border left middle right ws) = 4 + innerWidth ws := by
  refine measure_columns h hleft hmiddle hright ?_ hws
  rw [List.map_map]
  exact List.map_congr_left fun w _ => measure_rule h w

theorem measure_rowLine (h : IsAdditive measure) (hfits : Fits measure ws cells) (hws : ws ≠ []) :
    measure (rowLine measure ws cells) = 4 + innerWidth ws :=
  measure_columns h (by decide) (by decide) (by decide) (measure_paddedCells h hfits) hws

/-- The first two lines are those of a table with one column only. -/
theorem lines_eq (measure : Text → Nat) (table : Table) : table.lines measure =
    border '┌' '─' '┐' [table.contentWidth measure] ::
    rowLine measure [table.contentWidth measure] [table.title] ::
    border '├' '┬' '┤' (table.widths measure) ::
    rowLine measure (table.widths measure) table.headers ::
    border '├' '┼' '┤' (table.widths measure) ::
    (table.rows.map (rowLine measure (table.widths measure)) ++
      [border '└' '┴' '┘' (table.widths measure)]) := by
  simp [lines, border, rowLine, paddedCells, Text.join, contentWidth]

/-- Every line of a table is a border, or the line of the title, the headers or a row. -/
theorem forall_mem_lines {P : Text → Prop}
    (hborder : ∀ left ∈ Text.frame, ∀ middle ∈ Text.frame, ∀ right ∈ Text.frame,
      ∀ ws ∈ [[table.contentWidth measure], table.widths measure], P (border left middle right ws))
    (htitle : P (rowLine measure [table.contentWidth measure] [table.title]))
    (hrow : ∀ row ∈ table.headers :: table.rows, P (rowLine measure (table.widths measure) row)) :
    ∀ line ∈ table.lines measure, P line := by
  obtain ⟨hheader, hrows⟩ := List.forall_mem_cons.1 hrow
  intro line hline
  simp only [lines_eq, List.mem_cons, List.mem_append, List.mem_map, List.not_mem_nil, or_false] at hline
  obtain rfl | rfl | rfl | rfl | rfl | ⟨row, hmem, rfl⟩ | rfl := hline
  · exact hborder _ (by decide) _ (by decide) _ (by decide) _ (by simp)
  · exact htitle
  · exact hborder _ (by decide) _ (by decide) _ (by decide) _ (by simp)
  · exact hheader
  · exact hborder _ (by decide) _ (by decide) _ (by decide) _ (by simp)
  · exact hrows row hmem
  · exact hborder _ (by decide) _ (by decide) _ (by decide) _ (by simp)

theorem widths_ne_nil (hheaders : table.headers ≠ []) : table.widths measure ≠ [] := by
  rwa [← List.length_pos_iff, length_widths, List.length_pos_iff]

/-- Every line of a table has the same width. -/
theorem measure_of_mem_lines (h : IsAdditive measure) (hheaders : table.headers ≠ []) :
    ∀ line ∈ table.lines measure, measure line = table.fullWidth measure := by
  have hws : table.widths measure ≠ [] := widths_ne_nil hheaders
  have hinner : innerWidth (table.widths measure) = table.contentWidth measure := innerWidth_widths hheaders
  have hsingle : innerWidth [table.contentWidth measure] = table.contentWidth measure := by
    simp [innerWidth_eq]
  rw [fullWidth_eq]
  refine forall_mem_lines ?_ ?_ fun row hrow => ?_
  · intro left hleft middle hmiddle right hright ws hmem
    obtain rfl | rfl : ws = [table.contentWidth measure] ∨ ws = table.widths measure := by simpa using hmem
    · rw [measure_border h hleft hmiddle hright (by simp), hsingle]
    · rw [measure_border h hleft hmiddle hright hws, hinner]
  · have hfits : Fits measure [table.contentWidth measure] [table.title] := by
      intro column w cell hw hcell
      cases column with
      | zero =>
        rw [← Option.some.inj hw, ← Option.some.inj hcell]
        exact le_max_right _ _
      | succ column => simp at hw
    rw [measure_rowLine h hfits (by simp), hsingle]
  · rw [measure_rowLine h (fits_widths hrow) hws, hinner]

/-! ## The text of a table -/

theorem notMem_join {c : Char} {sep : Text} {pieces : List Text} (hsep : c ∉ sep)
    (hpieces : ∀ piece ∈ pieces, c ∉ piece) : c ∉ Text.join sep pieces := by
  induction pieces with
  | nil => simp [Text.join]
  | cons piece rest ih =>
    obtain ⟨hpiece, hrest⟩ := List.forall_mem_cons.1 hpieces
    rcases rest with _ | ⟨next, rest⟩
    · simpa [Text.join] using hpiece
    · simp [Text.join_cons_cons, hpiece, hsep, ih hrest]

theorem ne_of_mem_frame {c : Char} (hc : c ∈ Text.frame) : '\n' ≠ c := by
  rintro rfl
  exact absurd hc (by decide)

theorem lineFeed_notMem_border (hleft : left ∈ Text.frame) (hmiddle : middle ∈ Text.frame)
    (hright : right ∈ Text.frame) (ws : List Nat) : '\n' ∉ border left middle right ws := by
  have hjoin : '\n' ∉ Text.join [middle] (ws.map rule) :=
    notMem_join (by simpa using ne_of_mem_frame hmiddle) (by simp [rule])
  simp [border, ne_of_mem_frame hleft, ne_of_mem_frame hright, hjoin]

theorem lineFeed_notMem_rowLine (hcells : ∀ cell ∈ cells, '\n' ∉ cell) (ws : List Nat) :
    '\n' ∉ rowLine measure ws cells := by
  have hpadded : ∀ piece ∈ paddedCells measure ws cells, '\n' ∉ piece := by
    induction ws, cells using paddedCells.induct with
    | case1 => simp [paddedCells]
    | case2 w ws ih => simpa [paddedCells, pad] using ih (by simp)
    | case3 w ws cell cells ih =>
      obtain ⟨hcell, hrest⟩ := List.forall_mem_cons.1 hcells
      simpa [paddedCells, pad, hcell] using ih hrest
  have hjoin : '\n' ∉ Text.join ['│'] (paddedCells measure ws cells) := notMem_join (by decide) hpadded
  simp [rowLine, hjoin]

/-- The lines of a table are found again in its text, if nothing in it breaks a line. -/
theorem splitOn_drawWith (htitle : '\n' ∉ table.title)
    (hcells : ∀ row ∈ table.headers :: table.rows, ∀ cell ∈ row, '\n' ∉ cell) :
    Text.splitOn '\n' (table.drawWith measure) = table.lines measure ++ [[]] := by
  have hlines : ∀ line ∈ table.lines measure, '\n' ∉ line :=
    forall_mem_lines (fun _ hleft _ hmiddle _ hright ws _ => lineFeed_notMem_border hleft hmiddle hright ws)
      (lineFeed_notMem_rowLine (by simpa using htitle) _)
      (fun row hrow => lineFeed_notMem_rowLine (hcells row hrow) _)
  unfold drawWith
  generalize table.lines measure = lines at hlines
  induction lines with
  | nil => rfl
  | cons line lines ih =>
    obtain ⟨hline, hlines⟩ := List.forall_mem_cons.1 hlines
    rw [List.flatMap_cons, List.append_assoc, List.singleton_append, Text.splitOn_append,
      Text.splitOn_of_notMem hline, ih hlines]
    rfl

/-! ## The cells in a line -/

/-- The places at which columns begin, in a line in which the first one begins at a place. -/
def places (place : Nat) : List Nat → List Nat
  | [] => []
  | w :: ws => place :: places (place + w + 3) ws

/-- Cells stand in a line one behind the other, each with its own place.  What of the line comes before is
passed. -/
def StandAt (measure : Text → Nat) (passed : Text) : List Nat → List Text → Text → Prop
  | place :: rest, cell :: cells, line =>
    ∃ before after, line = before ++ cell ++ after ∧ measure (passed ++ before) = place ∧
      StandAt measure (passed ++ before ++ cell) rest cells after
  | _, _, _ => True

theorem length_places (place : Nat) (ws : List Nat) : (places place ws).length = ws.length := by
  induction ws generalizing place with
  | nil => rfl
  | cons w ws ih => simp [places, ih]

theorem standAt_join (h : IsAdditive measure) {passed front : Text} {place : Nat}
    (hfits : Fits measure ws cells) (hplace : measure (passed ++ front) + 1 = place) (behind : Text) :
    StandAt measure passed (places place ws) cells
      (front ++ (Text.join ['│'] (paddedCells measure ws cells) ++ behind)) := by
  induction ws, cells using paddedCells.induct generalizing passed front place with
  | case1 => simp [places, StandAt]
  | case2 w ws ih => simp [places, StandAt]
  | case3 w ws cell cells ih =>
    have hcell : measure cell ≤ w := hfits 0 w cell rfl rfl
    have hrest : Fits measure ws cells := fun column => hfits (column + 1)
    have hbefore : measure (passed ++ (front ++ [' '])) = place := by
      rw [← List.append_assoc, h.measure_concat (by decide), hplace]
    rcases ws with _ | ⟨v, vs⟩
    · refine ⟨front ++ [' '], List.replicate (w - measure cell) ' ' ++ ' ' :: behind, ?_, hbefore, ?_⟩
      · simp [paddedCells, Text.join, pad]
      · simp [places, StandAt]
    · -- the padding, the box line and the blank behind it come before the next cell
      obtain ⟨next, rest, hnext⟩ : ∃ next rest, paddedCells measure (v :: vs) cells = next :: rest := by
        cases cells <;> exact ⟨_, _, rfl⟩
      refine ⟨front ++ [' '], List.replicate (w - measure cell) ' ' ++ [' ', '│'] ++
        (Text.join ['│'] (paddedCells measure (v :: vs) cells) ++ behind), ?_, hbefore, ih hrest ?_⟩
      · rw [paddedCells, hnext, Text.join_cons_cons]
        simp [pad]
      · have hpassed : passed ++ (front ++ [' ']) ++ cell ++
            (List.replicate (w - measure cell) ' ' ++ [' ', '│']) =
              passed ++ front ++ ' ' :: (pad measure w cell ++ [' '] ++ ['│']) := by
          simp [pad]
        rw [hpassed, h.append _ _ _ (by decide), h.frame _ (by decide), h.measure_concat (by decide),
          h.measure_concat (by decide), measure_pad h hcell]
        omega

/-- Each cell that has a column stands in the line, and begins where its column does. -/
theorem standAt_rowLine (h : IsAdditive measure) (hfits : Fits measure ws cells) :
    StandAt measure [] (places 2 ws) cells (rowLine measure ws cells) := by
  have hplace : measure ([] ++ ['│']) + 1 = 2 := by rw [List.nil_append, h.frame _ (by decide)]
  exact standAt_join h hfits hplace ['│']

theorem length_lines (measure : Text → Nat) (table : Table) :
    (table.lines measure).length = 6 + table.rows.length := by
  simp only [lines_eq, List.length_cons, List.length_append, List.length_map, List.length_nil]
  omega

/-- The line of a row stands behind the five lines of the title and the headers. -/
theorem getElem?_lines {k : Nat} (hrow : table.rows[k]? = some row) :
    (table.lines measure)[5 + k]? = some (rowLine measure (table.widths measure) row) := by
  have hlt : k < table.rows.length := (List.getElem?_eq_some_iff.1 hrow).1
  rw [lines_eq, Nat.add_comm 5 k]
  simp only [List.getElem?_cons_succ]
  rw [List.getElem?_append_left (by simpa using hlt), List.getElem?_map, hrow, Option.map_some]

/-- A table is aligned, and nothing of it is lost, however its texts are measured if blanks and box lines
keep them apart.  Each of its lines, of which there are six more than rows, is as wide as the title or the
columns with what is around them.  The title stands in the second line, the headers in the fourth one, and the
cells of each row that have a header in the line of the row.  They stand one behind the other, and those of
one column at the same place. -/
theorem drawWith_aligned (hmeasure : IsAdditive measure) (hheaders : table.headers ≠ [])
    (htitle : '\n' ∉ table.title)
    (hcells : ∀ row ∈ table.headers :: table.rows, ∀ cell ∈ row, '\n' ∉ cell) :
    ∃ lines, Text.splitOn '\n' (table.drawWith measure) = lines ++ [[]] ∧
      lines.length = 6 + table.rows.length ∧
      (∀ line ∈ lines, measure line = table.fullWidth measure) ∧
      (∃ line, lines[1]? = some line ∧ table.title <:+: line) ∧
      ∃ places : List Nat, places.length = table.headers.length ∧
        (∃ line, lines[3]? = some line ∧ StandAt measure [] places table.headers line) ∧
        ∀ k row, table.rows[k]? = some row →
          ∃ line, lines[5 + k]? = some line ∧ StandAt measure [] places row line := by
  refine ⟨table.lines measure, splitOn_drawWith htitle hcells, length_lines measure table,
    measure_of_mem_lines hmeasure hheaders, ?_, places 2 (table.widths measure), ?_, ?_, ?_⟩
  · refine ⟨_, rfl, ['│', ' '],
      List.replicate (table.contentWidth measure - measure table.title) ' ' ++ [' ', '│'], ?_⟩
    simp [pad, contentWidth]
  · rw [length_places, length_widths]
  · exact ⟨_, rfl, standAt_rowLine hmeasure (fits_widths List.mem_cons_self)⟩
  · intro k row hrow
    have hmem : row ∈ table.headers :: table.rows := List.mem_cons_of_mem _ (List.mem_of_getElem? hrow)
    exact ⟨_, getElem?_lines hrow, standAt_rowLine hmeasure (fits_widths hmem)⟩

/-- A table with a title that is wider than its columns, with characters that take two columns or none, and
with rows that are shorter and longer than the headers. -/
def ragged : Table where
  title := "式 in the fíles".toList
  headers := ["File".toList, "式".toList]
  rows := [["a.yaml".toList], [], ["日本.yaml".toList, "x".toList, "not drawn".toList]]

theorem drawWith_aligned_ragged :
    IsAdditive Text.width ∧ ragged.headers ≠ [] ∧ '\n' ∉ ragged.title ∧
    (∀ row ∈ ragged.headers :: ragged.rows, ∀ cell ∈ row, '\n' ∉ cell) ∧
    ∃ lines, Text.splitOn '\n' ragged.draw = lines ++ [[]] ∧ lines.length = 9 ∧
      (∀ line ∈ lines, Text.width line = 19) ∧
      (∃ line, lines[1]? = some line ∧ ragged.title <:+: line) ∧
      ∃ places : List Nat, places.length = 2 ∧
        (∃ line, lines[3]? = some line ∧ StandAt Text.width [] places ragged.headers line) ∧
        ∀ k row, ragged.rows[k]? = some row →
          ∃ line, lines[5 + k]? = some line ∧ StandAt Text.width [] places row line := by
  have hwidth : ragged.fullWidth Text.width = 19 := by decide +kernel
  have hheaders : ragged.headers ≠ [] := by decide
  have htitle : '\n' ∉ ragged.title := by decide
  have hcells : ∀ row ∈ ragged.headers :: ragged.rows, ∀ cell ∈ row, '\n' ∉ cell := by decide
  refine ⟨Text.isAdditive_width, hheaders, htitle, hcells, ?_⟩
  have haligned := drawWith_aligned Text.isAdditive_width hheaders htitle hcells
  rw [hwidth] at haligned
  exact haligned

end Table
end ExprMigration
