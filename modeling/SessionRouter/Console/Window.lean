import SessionRouter.Console.Input
import SessionRouter.Lib.Wrap

/-!
Text on the screen of the console: controls are escaped, lines wrapped at the width of the window
and only the visible rows kept.
-/

namespace SessionRouter

/-- `UnicodeWidthStr::width`. -/
class CellWidth where
  cells : List Char → ℕ
  ellipsis : cells ['…'] = 1

def hexUpper (d : ℕ) : Char := if d < 10 then Char.ofNat (48 + d) else Char.ofNat (55 + d)

/-- A control as `write!` prints it, with four digits. -/
def escapeControl (c : Char) : List Char :=
  ['\\', 'u', '\x7b', '0', '0', hexUpper (c.toNat / 16), hexUpper (c.toNat % 16), '\x7d']

def escapeTerminal (value : List Char) : List Char :=
  value.flatMap fun c => if isControl c then escapeControl c else [c]

/-- `split('\n')`. -/
def lines (value : List Char) : List (List Char) := value.splitOn '\n'

def escapeMultiline (value : List Char) : List Char :=
  ['\n'].intercalate ((lines value).map escapeTerminal)

def safeGrapheme (value : List Char) : List Char :=
  if value.any isControl then escapeTerminal value else value

section preview

variable [Graphemes] [CellWidth]

/-- How `preview` shows a grapheme. -/
def previewGrapheme (grapheme : List Char) : List Char :=
  if grapheme = ['\n'] then [' ', '↵', ' '] else safeGrapheme grapheme

/-- The loop of `preview`. -/
def previewFrom (cells : ℕ) (output : List Char) (used : ℕ) : List (List Char) → List Char
  | [] => output
  | grapheme :: rest =>
    if 1024 < Utf8.len output + Utf8.len grapheme then output ++ ['…']
    else
      let escaped := previewGrapheme grapheme
      let width := CellWidth.cells escaped
      let reserve := if rest.isEmpty then 0 else 1
      if cells < used + width + reserve then output ++ ['…']
      else previewFrom cells (output ++ escaped) (used + width) rest

def preview (value : List Char) (cells : ℕ) : List Char :=
  if cells = 0 then [] else previewFrom cells [] 0 (graphemes value)

end preview

structure TextWindow where
  width : ℕ
  height : ℕ
  skip : ℕ
  row : ℕ
  lines : List (List Char)

namespace TextWindow

def new (width height skip : ℕ) : TextWindow :=
  { width := max width 1, height, skip, row := 0, lines := [] }

def full (w : TextWindow) : Bool := w.height ≤ w.lines.length

def line (w : TextWindow) (text : List Char) : TextWindow :=
  { w with
    lines := if w.skip ≤ w.row && !w.full then w.lines ++ [text] else w.lines
    row := w.row + 1 }

section push

variable [Graphemes] [CellWidth]

/-- The graphemes that a logical line shows, one escaped grapheme after the other. -/
def displayed (logicalLine : List Char) : List (List Char) :=
  (graphemes logicalLine).flatMap fun grapheme => graphemes (safeGrapheme grapheme)

/-- The two inner loops of `push`, over the graphemes a logical line shows, and the line that ends
it. -/
def pushLine (w : TextWindow) (text : List Char) (width : ℕ) : List (List Char) → TextWindow
  | [] => w.line text
  | grapheme :: rest =>
    let cells := CellWidth.cells grapheme
    if 0 < width && w.width < width + cells then
      let w := w.line text
      if w.full then w
      else w.pushLine (if w.skip ≤ w.row then grapheme else []) cells rest
    else
      w.pushLine (if w.skip ≤ w.row then text ++ grapheme else text) (width + cells) rest

/-- The loop over the logical lines. -/
def pushLines (w : TextWindow) : List (List Char) → TextWindow
  | [] => w
  | logicalLine :: rest =>
    let w := w.pushLine [] 0 (displayed logicalLine)
    if w.full then w else w.pushLines rest

def push (w : TextWindow) (value : List Char) : TextWindow :=
  if w.full then w else w.pushLines (SessionRouter.lines value)

def field (w : TextWindow) (label value : List Char) : TextWindow :=
  if w.full then w else (w.push label).push value

/-- What the panes call. -/
inductive Call where
  | push (value : List Char)
  | field (label value : List Char)

def call (w : TextWindow) : Call → TextWindow
  | .push value => w.push value
  | .field label value => w.field label value

def Call.texts : Call → List (List Char)
  | push value => [value]
  | field label value => [label, value]

/-- The rows of a text, each a list of the graphemes it shows. -/
def textRows (width : ℕ) (value : List Char) : List (List (List Char)) :=
  (SessionRouter.lines value).flatMap fun logicalLine =>
    Wrap.rows CellWidth.cells width (displayed logicalLine)

end push

end TextWindow

end SessionRouter
