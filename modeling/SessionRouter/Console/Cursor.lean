import SessionRouter.Console.Window

/-!
Where the cursor of an input line is shown.
-/

namespace SessionRouter

section

variable [Graphemes] [CellWidth]

/-- The inner loop of `input_cursor`, over the graphemes that one grapheme shows. -/
def placeDisplayed (width : ℕ) (cell : ℕ × ℕ) (displayed : List Char) : ℕ × ℕ :=
  let cells := CellWidth.cells displayed
  if width < cell.2 + cells then (cell.1 + 1, cells) else (cell.1, cell.2 + cells)

/-- The body of the loop: a line feed goes to the next row. -/
def placeGrapheme (width : ℕ) (cell : ℕ × ℕ) (grapheme : List Char) : ℕ × ℕ :=
  if grapheme = ['\n'] then (cell.1 + 1, 0)
  else (graphemes (safeGrapheme grapheme)).foldl (placeDisplayed width) cell

/-- A full row is left for the next one. -/
def rollOver (width : ℕ) (cell : ℕ × ℕ) : ℕ × ℕ :=
  if width ≤ cell.2 then (cell.1 + 1, 0) else cell

/-- `input_cursor`: the row and the column. -/
def inputCursor (input : InputBuffer) (width : ℕ) : Option (ℕ × ℕ) :=
  (Utf8.splitAt input.text input.cursor).map fun (before, _) =>
    rollOver width ((graphemes before).foldl (placeGrapheme width) (0, 0))

end

end SessionRouter
