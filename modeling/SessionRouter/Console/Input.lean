import SessionRouter.Console.State
import SessionRouter.Lib.Segmentation
import SessionRouter.Lib.Utf8

/-!
The input line of the console. Its cursor is a byte offset, and every operation that takes a slice
of the text there would fail if the offset were inside a character.
-/

namespace SessionRouter

/-- Extended grapheme clusters. The rules join nothing to a newline, and a newline only to a
carriage return. -/
class Graphemes extends Segmentation Char where
  joins_newline : ∀ g, '\r' ∉ g → joins g '\n' = false
  newline_joins : ∀ c, joins ['\n'] c = false

namespace Graphemes.Sample

/-- The rules as far as they concern carriage returns and combining marks. -/
scoped instance graphemes : Graphemes where
  joins g c :=
    g == ['\r'] && c == '\n' ||
      g.getLast?.any (fun d => 32 ≤ d.toNat) && 0x300 ≤ c.toNat && c.toNat < 0x370
  joins_newline g h := by
    have hne : g ≠ ['\r'] := by
      rintro rfl
      exact h List.mem_cons_self
    simp [hne]
  newline_joins c := by simp

end Graphemes.Sample

/-- `graphemes(true)`. -/
def graphemes [G : Graphemes] (text : List Char) : List (List Char) :=
  G.toSegmentation.clusters text

/-- Pieces of a text with their byte offsets, the first one at `offset`. -/
def indicesFrom (offset : ℕ) : List (List Char) → List (ℕ × List Char)
  | [] => []
  | g :: gs => (offset, g) :: indicesFrom (offset + Utf8.len g) gs

/-- `grapheme_indices(true)`. -/
def graphemeIndices [Graphemes] (text : List Char) : List (ℕ × List Char) :=
  indicesFrom 0 (graphemes text)

/-- `replace("\r\n", "\n")`. -/
def replaceCrLf : List Char → List Char
  | '\r' :: '\n' :: text => '\n' :: replaceCrLf text
  | c :: text => c :: replaceCrLf text
  | [] => []

/-- `replace('\r', "\n")`. -/
def replaceCr (text : List Char) : List Char := text.map fun c => if c = '\r' then '\n' else c

structure InputBuffer where
  text : List Char
  cursor : ℕ
  maxBytes : ℕ
  multiline : Bool
  deriving DecidableEq

namespace InputBuffer

def new (maxBytes : ℕ) (multiline : Bool) : InputBuffer :=
  { text := [], cursor := 0, maxBytes, multiline }

def clear (b : InputBuffer) : InputBuffer := { b with text := [], cursor := 0 }

variable [Graphemes]

def normalizeCursorForward (b : InputBuffer) : InputBuffer :=
  { b with cursor := (((graphemeIndices b.text).map Prod.fst).find? fun offset =>
      b.cursor ≤ offset).getD (Utf8.len b.text) }

/-- `insert`. A slice off a character boundary is `none`. -/
def insert (b : InputBuffer) (text : List Char) :
    Option (Except StateError Unit × InputBuffer) :=
  if b.maxBytes * 2 < Utf8.len text then some (.error .inputTooLarge, b)
  else
    let text := if '\r' ∈ text then replaceCr (replaceCrLf text) else text
    if !b.multiline && text.contains '\n' then some (.error .singleLine, b)
    else if b.maxBytes < Utf8.len b.text + Utf8.len text then some (.error .inputTooLarge, b)
    else
      (Utf8.splitAt b.text b.cursor).map fun (before, after) =>
        (.ok (), normalizeCursorForward { b with
          text := before ++ text ++ after
          cursor := b.cursor + Utf8.len text })

def left (b : InputBuffer) : Option InputBuffer :=
  (Utf8.splitAt b.text b.cursor).map fun (before, _) =>
    { b with cursor := (graphemeIndices before).getLast?.elim 0 Prod.fst }

def right (b : InputBuffer) : Option InputBuffer :=
  (Utf8.splitAt b.text b.cursor).map fun (_, after) =>
    match (graphemes after).head? with
    | some grapheme => { b with cursor := b.cursor + Utf8.len grapheme }
    | none => b

/-- `replace_range(start..stop, "")`. -/
def removeRange (text : List Char) (start stop : ℕ) : Option (List Char) :=
  (Utf8.splitAt text stop).bind fun (upTo, after) =>
    (Utf8.splitAt upTo start).map fun (before, _) => before ++ after

def backspace (b : InputBuffer) : Option InputBuffer := do
  let stop := b.cursor
  let b ← b.left
  let text ← removeRange b.text b.cursor stop
  pure (normalizeCursorForward { b with text })

def delete (b : InputBuffer) : Option InputBuffer :=
  (Utf8.splitAt b.text b.cursor).bind fun (_, after) =>
    match (graphemes after).head? with
    | some grapheme =>
      (removeRange b.text b.cursor (b.cursor + Utf8.len grapheme)).map fun text =>
        normalizeCursorForward { b with text }
    | none => some b

/-- The start of the line that the cursor is in. -/
def lineStart (before : List Char) : ℕ := (Utf8.rfind '\n' before).elim 0 (· + 1)

def home (b : InputBuffer) : Option InputBuffer :=
  (Utf8.splitAt b.text b.cursor).map fun (before, _) => { b with cursor := lineStart before }

def «end» (b : InputBuffer) : Option InputBuffer :=
  (Utf8.splitAt b.text b.cursor).map fun (_, after) =>
    { b with cursor := b.cursor +
        (Utf8.find '\n' after).getD (Utf8.len b.text - b.cursor) }

/-- The line below, as a range of bytes, when there is one. -/
def rangeBelow (b : InputBuffer) (after : List Char) : Option (Option (ℕ × ℕ)) :=
  match Utf8.find '\n' after with
  | none => some none
  | some offset =>
    let nextStart := b.cursor + offset + 1
    (Utf8.splitAt b.text nextStart).map fun (_, rest) =>
      some (nextStart, (Utf8.find '\n' rest).elim (Utf8.len b.text) (nextStart + ·))

/-- The line above, as a range of bytes, when there is one. -/
def rangeAbove (b : InputBuffer) (start : ℕ) : Option (Option (ℕ × ℕ)) :=
  if start = 0 then some none
  else
    let previousEnd := start - 1
    (Utf8.splitAt b.text previousEnd).map fun (before, _) =>
      some (lineStart before, previousEnd)

/-- The line that the cursor goes to. -/
def targetRange (b : InputBuffer) (down : Bool) (start : ℕ) (after : List Char) :
    Option (Option (ℕ × ℕ)) :=
  if down then b.rangeBelow after else b.rangeAbove start

def vertical (b : InputBuffer) (down : Bool) : Option InputBuffer := do
  let (before, after) ← Utf8.splitAt b.text b.cursor
  let start := lineStart before
  let column := (graphemes (← Utf8.slice b.text start b.cursor)).length
  match ← b.targetRange down start after with
  | none => pure b
  | some (first, last) =>
    let line ← Utf8.slice b.text first last
    pure { b with cursor := (graphemeIndices line)[column]?.elim last (first + ·.1) }

/-- What the user does to an input line. -/
inductive Edit where
  | insert (text : List Char)
  | left | right | backspace | delete | home | «end» | clear
  | vertical (down : Bool)

/-- One edit, with the error of an insertion that fails. -/
def edit (b : InputBuffer) : Edit → Option (Except StateError Unit × InputBuffer)
  | .insert text => b.insert text
  | .left => b.left.map (.ok (), ·)
  | .right => b.right.map (.ok (), ·)
  | .backspace => b.backspace.map (.ok (), ·)
  | .delete => b.delete.map (.ok (), ·)
  | .home => b.home.map (.ok (), ·)
  | .end => b.end.map (.ok (), ·)
  | .clear => some (.ok (), b.clear)
  | .vertical down => (b.vertical down).map (.ok (), ·)

/-- The buffer after a sequence of edits; `none` when a slice was taken inside a character. -/
def edits (b : InputBuffer) : List Edit → Option InputBuffer
  | [] => some b
  | e :: rest => (b.edit e).bind fun r => edits r.2 rest

end InputBuffer

end SessionRouter
