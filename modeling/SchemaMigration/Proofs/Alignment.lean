import Mathlib.Algebra.GroupWithZero.Nat
import Mathlib.Data.List.Forall2
import Mathlib.Data.String.Basic
import SchemaMigration.Cli.Table
import SchemaMigration.Proofs.Blanks

/-! # Columns of tables

The columns of a printed table stand one under the other, whatever is in the cells. A width counts bytes
and a line is padded by characters; a text has no more characters than bytes, so that every cell has room
in its column, and a column starts at `columnStart` in each line.
-/

namespace SchemaMigration.Cli

theorem length_le_utf8ByteSize (text : String) : text.length ≤ text.utf8ByteSize := by
  rw [← String.ofList_toList (s := text), String.utf8ByteSize_ofList, String.length_ofList]
  induction text.toList with
  | nil => exact Nat.le_refl 0
  | cons c cs ih =>
      have one := c.utf8Size_pos
      rw [List.length_cons, String.utf8Len_cons]
      omega

theorem foldl_max_le_iff {α : Type} {size : α → Nat} {xs : List α} {n bound : Nat} :
    xs.foldl (fun width x => max width (size x)) n ≤ bound ↔
      n ≤ bound ∧ ∀ x ∈ xs, size x ≤ bound := by
  induction xs generalizing n with
  | nil => simp
  | cons x xs ih => simp [ih, and_assoc]

variable {headers : List String} {rows : List (List String)}

theorem columnWidths_getElem? (headers : List String) (rows : List (List String)) (j : Nat) :
    (columnWidths headers rows)[j]? = headers[j]?.map fun header =>
      rows.foldl (fun width row => max width ((row[j]?.map String.utf8ByteSize).getD 0))
        header.utf8ByteSize := by
  simp [columnWidths, List.getElem?_zipIdx, Function.comp_def]

/-- A column is as wide as needed for the bytes of its header and of its cells, and no wider. -/
theorem columnWidth_le_iff {j w bound : Nat} (h : (columnWidths headers rows)[j]? = some w) :
    w ≤ bound ↔ ∀ cells ∈ headers :: rows, ∀ cell, cells[j]? = some cell → cell.utf8ByteSize ≤ bound := by
  rw [columnWidths_getElem?, Option.map_eq_some_iff] at h
  obtain ⟨header, top, rfl⟩ := h
  have sized (row : List String) : (row[j]?.map String.utf8ByteSize).getD 0 ≤ bound ↔
      ∀ cell, row[j]? = some cell → cell.utf8ByteSize ≤ bound := by
    cases row[j]? <;> simp
  simp only [foldl_max_le_iff, sized, List.forall_mem_cons, top, Option.some.injEq, forall_eq']

theorem length_le_columnWidth {j w : Nat} (h : (columnWidths headers rows)[j]? = some w)
    {cells : List String} (among : cells ∈ headers :: rows) {cell : String}
    (own : cells[j]? = some cell) : cell.length ≤ w :=
  (length_le_utf8ByteSize cell).trans ((columnWidth_le_iff h).mp (Nat.le_refl w) cells among cell own)

/-- Where a column starts in a line: each column before it takes its width and the two blanks of
    `columnGap`. -/
def columnStart (widths : List Nat) (j : Nat) : Nat :=
  ((widths.take j).map (· + 2)).sum

/-- Characters stand in columns: those of each column from where it starts, as many as it is wide, with
    two blanks between a column and the next and nothing else. -/
structure LaidOut (widths : List Nat) (columns : List (List Char)) (line : List Char) : Prop where
  column : ∀ j w chars, widths[j]? = some w → columns[j]? = some chars →
    chars.length = w ∧ (line.drop (columnStart widths j)).take w = chars
  gap : ∀ j w, widths[j]? = some w → j + 1 < columns.length →
    (line.drop (columnStart widths j + w)).take 2 = [' ', ' ']
  length : line.length = columnStart widths columns.length - 2

theorem columnStart_zero (widths : List Nat) : columnStart widths 0 = 0 := by
  rw [columnStart, List.take_zero, List.map_nil, List.sum_nil]

theorem columnStart_succ (w : Nat) (widths : List Nat) (j : Nat) :
    columnStart (w :: widths) (j + 1) = w + 2 + columnStart widths j := by
  rw [columnStart, List.take_succ_cons, List.map_cons, List.sum_cons, columnStart]

theorem columnStart_take {widths : List Nat} {j n : Nat} (within : j ≤ n) :
    columnStart (widths.take n) j = columnStart widths j := by
  rw [columnStart, List.take_take, Nat.min_eq_left within, columnStart]

variable {columns : List (List Char)}

theorem drop_columns {j : Nat} (inside : j < columns.length) :
    ([' ', ' '].intercalate columns).drop (columnStart (columns.map List.length) j) =
      [' ', ' '].intercalate (columns.drop j) := by
  induction j generalizing columns with
  | zero => rw [columnStart_zero, List.drop_zero, List.drop_zero]
  | succ j ih =>
      cases columns with
      | nil => cases inside
      | cons first columns =>
          cases columns with
          | nil => simp at inside
          | cons second rest =>
              have later := ih (Nat.lt_of_succ_lt_succ inside)
              rw [List.map_cons, columnStart_succ, List.intercalate_cons_cons, List.drop_succ_cons,
                ← later]
              have front : first.length + 2 = (first ++ [' ', ' ']).length := by simp
              rw [front, List.drop_length_add_append]

theorem length_columns : ([' ', ' '].intercalate columns).length =
    columnStart (columns.map List.length) columns.length - 2 := by
  induction columns with
  | nil => rfl
  | cons first columns ih =>
      cases columns with
      | nil => simp [columnStart]
      | cons second rest =>
          rw [List.intercalate_cons_cons, List.length_append, List.length_append, ih]
          simp only [List.map_cons, List.length_cons, columnStart_succ, List.length_nil]
          omega

theorem laidOut_columns {widths : List Nat}
    (fits : columns.map List.length = widths.take columns.length) :
    LaidOut widths columns ([' ', ' '].intercalate columns) := by
  have start {j : Nat} (within : j ≤ columns.length) :
      columnStart widths j = columnStart (columns.map List.length) j := by
    rw [fits, columnStart_take within]
  have sized {j w : Nat} {chars : List Char} (wide : widths[j]? = some w)
      (own : columns[j]? = some chars) : chars.length = w := by
    have same := congrArg (fun lengths : List Nat => lengths[j]?) fits
    obtain ⟨inside, -⟩ := List.getElem?_eq_some_iff.mp own
    simpa only [List.getElem?_map, own, Option.map_some, List.getElem?_take_of_lt inside, wide,
      Option.some.injEq] using same
  refine ⟨fun j w chars wide own => ?_, fun j w wide next => ?_, ?_⟩
  · obtain ⟨inside, rfl⟩ := List.getElem?_eq_some_iff.mp own
    refine ⟨sized wide own, ?_⟩
    rw [start (Nat.le_of_lt inside), drop_columns inside, List.drop_eq_getElem_cons inside,
      ← sized wide own]
    cases columns.drop (j + 1) with
    | nil => simp
    | cons second rest => rw [List.intercalate_cons_cons, List.append_assoc, List.take_left]
  · have inside : j < columns.length := by omega
    rw [← sized wide (List.getElem?_eq_getElem inside), start (Nat.le_of_lt inside),
      ← List.drop_drop, drop_columns inside, List.drop_eq_getElem_cons inside,
      List.drop_eq_getElem_cons next, List.intercalate_cons_cons, List.append_assoc, List.drop_left]
    rfl
  · rw [length_columns, start (Nat.le_refl _)]

def cellChars (w : Nat) (cell : String) : List Char :=
  cell.toList ++ List.replicate (w - cell.length) ' '

/-- A line shows cells in columns: they stand there whole, and nothing was taken away of the line but
    blanks at its end. -/
structure ShowsCells (widths : List Nat) (cells : List String) (line : String) : Prop where
  padded : ∃ blanks : List Char, (∀ c ∈ blanks, Text.isBlank c = true) ∧
    LaidOut widths (List.zipWith cellChars widths cells) (line.toList ++ blanks)
  trimmed : Text.TrimmedEnd line
  whole : ∀ j cell, j < widths.length → cells[j]? = some cell →
    (Text.trimEnd cell).toList <+: line.toList.drop (columnStart widths j)

variable {widths : List Nat} {cells : List String}

/-- No cell has more characters than its column is wide. -/
def HasRoom (widths : List Nat) (cells : List String) : Prop :=
  ∀ (j w : Nat) (cell : String), widths[j]? = some w → cells[j]? = some cell → cell.length ≤ w

theorem length_cellChars {w : Nat} {cell : String} (room : cell.length ≤ w) :
    (cellChars w cell).length = w := by
  rw [cellChars, List.length_append, List.length_replicate, String.length_toList]
  omega

theorem laidOut_cells (room : HasRoom widths cells) :
    LaidOut widths (List.zipWith cellChars widths cells)
      ([' ', ' '].intercalate (List.zipWith cellChars widths cells)) := by
  apply laidOut_columns
  refine List.ext_getElem (by simp) fun j inside _ => ?_
  simp only [List.length_map, List.length_zipWith, Nat.lt_min] at inside
  rw [List.getElem_map, List.getElem_zipWith, List.getElem_take]
  exact length_cellChars (room j _ _ (List.getElem?_eq_getElem inside.1)
    (List.getElem?_eq_getElem inside.2))

theorem tableLine_eq (widths : List Nat) (cells : List String) :
    tableLine widths cells = Text.trimEnd (String.ofList
      ([' ', ' '].intercalate (List.zipWith cellChars widths cells))) := by
  rw [tableLine]
  congr 1
  rw [← String.toList_inj, String.toList_intercalate, String.toList_ofList]
  simp [columnGap, padRight, List.zip, List.map_zipWith]
  rfl

theorem showsCells_tableLine (room : HasRoom widths cells) :
    ShowsCells widths cells (tableLine widths cells) := by
  obtain ⟨blanks, blank, taken⟩ := Text.trimEnd_append (String.ofList
    ([' ', ' '].intercalate (List.zipWith cellChars widths cells)))
  have out := laidOut_cells room
  rw [← tableLine_eq, String.toList_ofList] at taken
  rw [taken] at out
  refine ⟨⟨blanks, blank, out⟩, ?_, fun j cell inside own => ?_⟩
  · rw [tableLine_eq]
    exact Text.trimEnd_trimmedEnd _
  · have column : (List.zipWith cellChars widths cells)[j]? = some (cellChars widths[j] cell) := by
      rw [List.getElem?_zipWith, List.getElem?_eq_getElem inside, own]
    obtain ⟨-, shown⟩ := out.column j _ _ (List.getElem?_eq_getElem inside) column
    have begins : (Text.trimEnd cell).toList <+:
        ((tableLine widths cells).toList ++ blanks).drop (columnStart widths j) := by
      obtain ⟨ends, -, split⟩ := Text.trimEnd_append cell
      refine List.IsPrefix.trans ?_ (List.take_prefix widths[j] _)
      rw [shown, cellChars, split, List.append_assoc]
      exact List.prefix_append _ _
    rw [List.drop_append] at begins
    exact Text.prefix_of_prefix_append begins (fun c among => blank c (List.mem_of_mem_drop among))
      (Text.trimEnd_trimmedEnd cell)

theorem laidOut_tableRule (widths : List Nat) :
    LaidOut widths (widths.map (List.replicate · '-')) (tableRule widths).toList := by
  have joined : (tableRule widths).toList =
      [' ', ' '].intercalate (widths.map (List.replicate · '-')) := by
    rw [tableRule, String.toList_intercalate, List.map_map]
    simp [columnGap, Function.comp_def]
  rw [joined]
  apply laidOut_columns
  simp [Function.comp_def]

theorem mem_or_mem_of_mem_intercalate {α : Type} {separator : List α} {parts : List (List α)} {x : α}
    (h : x ∈ separator.intercalate parts) : x ∈ separator ∨ ∃ part ∈ parts, x ∈ part := by
  induction parts with
  | nil => cases h
  | cons first parts ih =>
      cases parts with
      | nil => exact .inr ⟨first, List.mem_cons_self, by simpa using h⟩
      | cons second rest =>
          rw [List.intercalate_cons_cons, List.mem_append, List.mem_append] at h
          rcases h with (here | between) | later
          · exact .inr ⟨first, List.mem_cons_self, here⟩
          · exact .inl between
          · exact (ih later).imp_right fun ⟨part, among, inside⟩ =>
              ⟨part, List.mem_cons_of_mem first among, inside⟩

theorem unbroken_tableLine (unbroken : ∀ cell ∈ cells, '\n' ∉ cell.toList) :
    '\n' ∉ (tableLine widths cells).toList := by
  intro broken
  obtain ⟨blanks, -, taken⟩ := Text.trimEnd_append (String.ofList
    ([' ', ' '].intercalate (List.zipWith cellChars widths cells)))
  rw [← tableLine_eq, String.toList_ofList] at taken
  have inside : '\n' ∈ [' ', ' '].intercalate (List.zipWith cellChars widths cells) := by
    rw [taken]
    exact List.mem_append_left _ broken
  rcases mem_or_mem_of_mem_intercalate inside with between | ⟨column, among, own⟩
  · revert between
    decide
  · obtain ⟨j, bound, rfl⟩ := List.mem_iff_getElem.mp among
    rw [List.getElem_zipWith, cellChars, List.mem_append] at own
    rcases own with written | padding
    · exact unbroken _ (List.getElem_mem _) written
    · cases List.eq_of_mem_replicate padding

theorem unbroken_tableRule (widths : List Nat) : '\n' ∉ (tableRule widths).toList := by
  rw [tableRule, String.toList_intercalate, List.map_map]
  intro broken
  rcases mem_or_mem_of_mem_intercalate broken with between | ⟨column, among, own⟩
  · revert between
    decide
  · obtain ⟨w, -, rfl⟩ := List.mem_map.mp among
    rw [Function.comp_apply, String.toList_ofList] at own
    cases List.eq_of_mem_replicate own

theorem toList_unlines (lines : List String) :
    (unlines lines).toList = ['\n'].intercalate (lines.map String.toList ++ [[]]) := by
  induction lines with
  | nil => rfl
  | cons line lines ih =>
      have more : lines.map String.toList ++ [[]] ≠ [] :=
        List.append_ne_nil_of_right_ne_nil _ (List.cons_ne_nil _ _)
      rw [List.map_cons, List.cons_append, List.intercalate_cons_of_ne_nil more, ← ih, unlines,
        List.map_cons, String.join_cons, String.toList_append, String.toList_append]
      rfl

theorem splitOn_unlines {lines : List String} (unbroken : ∀ line ∈ lines, '\n' ∉ line.toList) :
    (unlines lines).toList.splitOn '\n' = lines.map String.toList ++ [[]] := by
  rw [toList_unlines]
  apply List.splitOn_intercalate
  · intro line among
    rcases List.mem_append.mp among with written | last
    · obtain ⟨line, given, rfl⟩ := List.mem_map.mp written
      exact unbroken line given
    · rw [List.mem_singleton.mp last]
      exact List.not_mem_nil
  · exact List.append_ne_nil_of_right_ne_nil _ (List.cons_ne_nil _ _)

theorem unbroken_tableLines (unbroken : ∀ cells ∈ headers :: rows, ∀ cell ∈ cells, '\n' ∉ cell.toList) :
    ∀ line ∈ tableLines headers rows, '\n' ∉ line.toList := by
  rw [List.forall_mem_cons] at unbroken
  rw [tableLines, List.forall_mem_cons, List.forall_mem_cons, List.forall_mem_map]
  exact ⟨unbroken_tableLine unbroken.1, unbroken_tableRule _,
    fun row among => unbroken_tableLine (unbroken.2 row among)⟩

/-- Printed tables line up. For headers and rows of any texts without line breaks, what is printed is a
    line for the headers, a line of dashes and a line for each row, and nothing else. In all of them a
    column starts at `columnStart`; it has room for each text in it, and is as wide as its longest text
    has bytes at most. -/
theorem tables_line_up (headers : List String) (rows : List (List String))
    (unbroken : ∀ cells ∈ headers :: rows, ∀ cell ∈ cells, '\n' ∉ cell.toList) :
    let widths := columnWidths headers rows
    ∃ header rule lines,
      (unlines (tableLines headers rows)).toList.splitOn '\n' =
        (header :: rule :: lines).map String.toList ++ [[]] ∧
      ShowsCells widths headers header ∧
      LaidOut widths (widths.map (List.replicate · '-')) rule.toList ∧
      List.Forall₂ (ShowsCells widths) rows lines ∧
      widths.length = headers.length ∧
      (∀ cells ∈ headers :: rows, HasRoom widths cells) ∧
      ∀ bound, (∀ cells ∈ headers :: rows, ∀ cell ∈ cells, cell.utf8ByteSize ≤ bound) →
        ∀ w ∈ widths, w ≤ bound := by
  intro widths
  have room : ∀ cells ∈ headers :: rows, HasRoom widths cells :=
    fun cells among j w cell wide own => length_le_columnWidth wide among own
  refine ⟨_, _, _, splitOn_unlines (unbroken_tableLines unbroken),
    showsCells_tableLine (room headers List.mem_cons_self), laidOut_tableRule _, ?_, ?_, room, ?_⟩
  · rw [List.forall₂_map_right_iff, List.forall₂_same]
    exact fun row among => showsCells_tableLine (room row (List.mem_cons_of_mem headers among))
  · rw [← List.length_zipIdx (l := headers) (i := 0)]
    exact List.length_map _
  · intro bound small w among
    obtain ⟨j, wide⟩ := List.mem_iff_getElem?.mp among
    exact (columnWidth_le_iff wide).mpr fun cells given cell own =>
      small cells given cell (List.mem_of_getElem? own)

/-- A cell with more bytes than characters, a cell with a blank at its end, a row that is too long and one
    that is too short. -/
theorem tables_line_up_ragged :
    (unlines (tableLines ["ID", "N"] [["é", "7 ", "gone"], ["abc"]])).toList.splitOn '\n' =
      ["ID   N", "---  --", "é    7", "abc"].map String.toList ++ [[]] ∧
    ∃ header lines, ShowsCells [3, 2] ["ID", "N"] header ∧
      List.Forall₂ (ShowsCells [3, 2]) [["é", "7 ", "gone"], ["abc"]] lines := by
  obtain ⟨header, -, lines, -, shows, -, below, -⟩ :=
    tables_line_up ["ID", "N"] [["é", "7 ", "gone"], ["abc"]] (by decide)
  exact ⟨by decide, header, lines, shows, below⟩

end SchemaMigration.Cli
