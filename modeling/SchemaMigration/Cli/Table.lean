import SchemaMigration.Text.Blank

/-! # Tables of text

A header line, a line of dashes and a line for each row. A column is as wide (`columnWidths`) as its
widest cell has bytes, so that every cell has room for its characters; columns stand two blanks apart,
and lines have no blanks at their end.
-/

namespace SchemaMigration.Cli

/-- The widths of the columns under the given headers. Cells beyond the last header do not count. -/
def columnWidths (headers : List String) (rows : List (List String)) : List Nat :=
  headers.zipIdx.map fun (header, i) =>
    rows.foldl (fun width row => max width ((row[i]?.map String.utf8ByteSize).getD 0))
      header.utf8ByteSize

/-- A text followed by blanks up to a number of characters; `columnWidths` says how many. -/
def padRight (width : Nat) (s : String) : String :=
  s ++ String.ofList (List.replicate (width - s.length) ' ')

def columnGap : String := "  "

def tableLine (widths : List Nat) (cells : List String) : String :=
  Text.trimEnd (columnGap.intercalate ((widths.zip cells).map fun (w, cell) => padRight w cell))

/-- The line under the headers. -/
def tableRule (widths : List Nat) : String :=
  columnGap.intercalate (widths.map fun w => String.ofList (List.replicate w '-'))

def tableLines (headers : List String) (rows : List (List String)) : List String :=
  let widths := columnWidths headers rows
  tableLine widths headers :: tableRule widths :: rows.map (tableLine widths)

/-- Lines as a text, each with a line break at its end. -/
def unlines (lines : List String) : String :=
  String.join (lines.map (· ++ "\n"))

/-- A count with a noun in the singular or the plural. -/
def plural (n : Nat) (noun : String) : String :=
  toString n ++ " " ++ noun ++ if n = 1 then "" else "s"

end SchemaMigration.Cli
