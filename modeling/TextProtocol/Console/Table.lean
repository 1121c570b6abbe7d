import TextProtocol.Console.Wrap

/-!
# Tables

Rows of cells in columns as wide as their widest cells, without borders. Each cell has two blanks at
either side. A cell of several lines makes its row as high. Tabs do not count for the width of a
column, so that a cell with tabs may have to be wrapped.
-/

namespace TextProtocol.Console

def isLineEnd (c : Char) : Bool :=
  [10, 11, 12, 13, 28, 29, 30, 133, 8232, 8233].contains c.toNat

def cellWidth (cell : List Char) : Nat :=
  ((cell.splitOnP isLineEnd).map Text.cellLength).foldl max 0

def columnWidths : List (List (List Char)) → List Nat
  | [] => []
  | row :: rows =>
    let widths := row.map cellWidth
    match columnWidths rows with
    | [] => widths
    | others => List.zipWith max widths others

def rowLines (widths : List Nat) (row : List (List Char)) : List String :=
  let cells := List.zipWith wrapped widths row
  let height := (cells.map List.length).foldl max 1
  (List.range height).map fun i ↦
    let texts := List.zipWith (fun width lines ↦
      lines[i]?.getD (List.replicate width ' ')) widths cells
    String.ofList ("  ".toList ++ ("    ".toList).intercalate texts ++ "  \n".toList)

def table (rows : List (List (List Char))) : String :=
  String.join (rows.flatMap (rowLines (columnWidths rows)))

end TextProtocol.Console
