import DocScript.Console.Columns
import DocScript.Console.Markup

/-!
# Tables on a terminal

The cells of a table are markup. A frame says which characters stand around and between them.
-/

namespace DocScript.Console

/-- A line across a table: its ends, what fills a column and what stands between two columns. -/
structure Rule where
  left : Char
  fill : Char
  between : Char
  right : Char
  deriving DecidableEq, Repr

/-- The lines of a frame: above the titles, beside the cells, below the titles and at the end. -/
structure Frame where
  top : Rule
  cells : Rule
  titles : Rule
  bottom : Rule
  deriving DecidableEq, Repr

def rounded : Frame :=
  ⟨⟨'╭', '─', '┬', '╮'⟩, ⟨'│', ' ', '│', '│'⟩, ⟨'├', '─', '┼', '┤'⟩, ⟨'╰', '─', '┴', '╯'⟩⟩

/-- A frame of blanks with a line below the titles. -/
def simple : Frame :=
  let blank : Rule := ⟨' ', ' ', ' ', ' '⟩
  ⟨blank, blank, ⟨' ', '─', '─', ' '⟩, blank⟩

def Rule.join (r : Rule) (texts : List String) : String :=
  r.left.toString ++ r.between.toString.intercalate texts ++ r.right.toString ++ "\n"

def Rule.text (r : Rule) (widths : List Nat) : String :=
  r.join (widths.map fun w => String.ofList (List.replicate w r.fill))

/-- The lines of a cell in its column. There are none if its column has no room for text. -/
def Column.cell (c : Column) (width : Nat) (s : Styled) : List Styled :=
  if width ≤ padding then [] else s.wrap (width - padding) ⟨some c.side, .ellipsis, c.wraps⟩

/-- A line of a cell with a blank on either side. -/
def paddedLine (width : Nat) (s : Styled) : String :=
  String.ofList (fitStretches width
    ([' '] :: fitStretches (width - padding) s.stretches ++ [[' ']])).flatten

/-- The lines of a row: a cell that has fewer lines than others ends in blank ones. -/
def rowText (r : Rule) (widths : List Nat) (cells : List (List Styled)) : String :=
  let height := (cells.map List.length).foldl max 1
  String.join ((List.range height).map fun i =>
    r.join ((widths.zip cells).map fun (w, lines) =>
      match lines[i]? with
      | some l => paddedLine w l
      | none => String.ofList (List.replicate w ' ')))

/-- A table with a frame. There is none if a cell cannot be read as markup or has a style that
cannot be read. -/
def table? (frame : Frame) (columns : List Column) (rows : List (List String)) :
    Option String := do
  let cells ← rows.mapM (·.mapM Styled.ofMarkup?)
  let cells := columns.map (fun c => Styled.ofString c.title) :: cells
  let room := terminalColumns - (columns.length + 1)
  let widths := columnWidths room columns
    (columns.zipIdx.map fun (_, i) => cells.filterMap (·[i]?))
  let lines := cells.map fun row =>
    ((columns.zip widths).zip row).map fun ((c, w), s) => c.cell w s
  if lines.any (·.any (·.any (·.spans.any fun x => isUnreadableStyle x.style))) then none
  else
    let rowTexts := lines.map (rowText frame.cells widths)
    return frame.top.text widths ++ String.join (rowTexts.take 1) ++ frame.titles.text widths
      ++ String.join (rowTexts.drop 1) ++ frame.bottom.text widths

end DocScript.Console
