import SessionRouter.Console.Window
import SessionRouter.Console.InputSpec

/-!
What a window shows is a part of the whole text, escaped and wrapped.
-/

namespace SessionRouter

variable {c : Char} {value text : List Char}

/-- A text that cannot move the cursor of the terminal. -/
def Printable (text : List Char) : Prop := ∀ c ∈ text, isControl c = false

section escape

theorem hexUpper_printable {d : ℕ} (h : d < 16) : isControl (hexUpper d) = false := by
  have hall : ∀ d < 16, isControl (hexUpper d) = false := by decide
  exact hall d h

theorem escapeControl_printable (h : isControl c = true) : Printable (escapeControl c) := by
  have hsmall : c.toNat < 160 := by
    simp only [isControl, Bool.or_eq_true, Bool.and_eq_true, decide_eq_true_eq] at h
    omega
  intro d hd
  simp only [escapeControl, List.mem_cons, List.not_mem_nil, or_false] at hd
  rcases hd with rfl | rfl | rfl | rfl | rfl | rfl | rfl | rfl
  · decide
  · decide
  · decide
  · decide
  · decide
  · exact hexUpper_printable (by omega)
  · exact hexUpper_printable (by omega)
  · decide

theorem escapeTerminal_printable (value : List Char) : Printable (escapeTerminal value) := by
  intro d hd
  obtain ⟨c, -, hc⟩ := List.mem_flatMap.mp hd
  split at hc
  · next hcontrol => exact escapeControl_printable hcontrol d hc
  · next hplain =>
    obtain rfl := List.mem_singleton.mp hc
    simpa using hplain

theorem escapeTerminal_of_printable (h : Printable value) : escapeTerminal value = value := by
  induction value with
  | nil => rfl
  | cons c value ih =>
    have hc : isControl c = false := h c List.mem_cons_self
    have htail := ih fun d hd => h d (List.mem_cons_of_mem _ hd)
    unfold escapeTerminal at htail ⊢
    rw [List.flatMap_cons, htail, hc]
    rfl

theorem printable_of_any (h : value.any isControl = false) : Printable value := by
  intro c hc
  by_contra hne
  simp only [Bool.not_eq_false] at hne
  have hany : value.any isControl = true := List.any_eq_true.mpr ⟨c, hc, hne⟩
  rw [h] at hany
  cases hany

/-- A grapheme is escaped as it is within its line. -/
theorem safeGrapheme_eq (value : List Char) : safeGrapheme value = escapeTerminal value := by
  unfold safeGrapheme
  split
  · rfl
  · next h => exact (escapeTerminal_of_printable (printable_of_any (by simpa using h))).symm

theorem escapeTerminal_flatten (pieces : List (List Char)) :
    escapeTerminal pieces.flatten = (pieces.map escapeTerminal).flatten := by
  induction pieces with
  | nil => rfl
  | cons piece pieces ih =>
    rw [List.flatten_cons, List.map_cons, List.flatten_cons, ← ih]
    exact List.flatMap_append

theorem newline_not_mem (h : Printable value) : '\n' ∉ value := fun hmem => by
  have hn := h _ hmem
  revert hn
  decide

/-- Escaping keeps the line feeds and nothing else that is not printable. -/
theorem lines_escapeMultiline (value : List Char) :
    lines (escapeMultiline value) = (lines value).map escapeTerminal := by
  apply List.splitOn_intercalate
  · intro l hl
    obtain ⟨line, -, rfl⟩ := List.mem_map.mp hl
    exact newline_not_mem (escapeTerminal_printable line)
  · simp [lines]

end escape

section displayed

variable [Graphemes]

/-- Together the graphemes that a line shows are the line, escaped. -/
theorem flatten_displayed (logicalLine : List Char) :
    (TextWindow.displayed logicalLine).flatten = escapeTerminal logicalLine := by
  have hflat : ∀ gs : List (List Char),
      (gs.flatMap fun g => graphemes (safeGrapheme g)).flatten =
        (gs.map escapeTerminal).flatten := by
    intro gs
    induction gs with
    | nil => rfl
    | cons g gs ih =>
      rw [List.flatMap_cons, List.flatten_append, ih, flatten_graphemes, safeGrapheme_eq]
      rfl
  unfold TextWindow.displayed
  rw [hflat, ← escapeTerminal_flatten, flatten_graphemes]

theorem displayed_printable {logicalLine g : List Char}
    (h : g ∈ TextWindow.displayed logicalLine) : Printable g := by
  intro c hc
  apply escapeTerminal_printable logicalLine
  rw [← flatten_displayed]
  exact List.mem_flatten.mpr ⟨g, h, hc⟩

end displayed

namespace TextWindow

variable [Graphemes] [CellWidth] {w : TextWindow} {R R' : List (List (List Char))}

/-- The window keeps its part of the rows `R`, and counts them while it has room. -/
structure Shows (w : TextWindow) (R : List (List (List Char))) : Prop where
  lines : w.lines = ((R.drop w.skip).take w.height).map List.flatten
  row : w.full = false → w.row = R.length

omit [Graphemes] [CellWidth] in
/-- A full window stays as it is. -/
theorem Shows.full (h : w.Shows R) (hfull : w.full = true) (R' : List (List (List Char))) :
    w.Shows (R ++ R') := by
  refine ⟨?_, fun hroom => by rw [hfull] at hroom; cases hroom⟩
  have hlen : w.height ≤ (R.drop w.skip).length := by
    have hfull' : w.height ≤ w.lines.length := by simpa [TextWindow.full] using hfull
    rw [h.lines, List.length_map, List.length_take] at hfull'
    omega
  rcases Nat.eq_zero_or_pos w.height with hzero | hpos
  · rw [h.lines, hzero]
    rfl
  · have hskip : w.skip ≤ R.length := by
      rw [List.length_drop] at hlen
      omega
    rw [h.lines, List.drop_append_of_le_length hskip, List.take_append_of_le_length hlen]

omit [Graphemes] [CellWidth] in
/-- One more row, of which the text matters only when it is not skipped. -/
theorem Shows.line (h : w.Shows R) (hroom : w.full = false) {r : List (List Char)}
    (htext : text = if w.skip ≤ w.row then r.flatten else []) : (w.line text).Shows (R ++ [r]) := by
  have hrow := h.row hroom
  have hshort : w.lines.length < w.height := by simpa [TextWindow.full] using hroom
  refine ⟨?_, fun _ => by rw [List.length_append]; exact congrArg (· + 1) hrow⟩
  show (if w.skip ≤ w.row && !w.full then w.lines ++ [text] else w.lines) = _
  rw [hroom]
  by_cases hskip : w.skip ≤ w.row
  · rw [if_pos hskip] at htext
    have hle : (R.drop w.skip).length < w.height := by
      rw [h.lines, List.length_map, List.length_take] at hshort
      omega
    rw [if_pos (by simpa using hskip), h.lines, htext]
    show _ = (((R ++ [r]).drop w.skip).take w.height).map List.flatten
    rw [List.drop_append_of_le_length (hrow ▸ hskip), List.take_of_length_le hle.le,
      List.take_of_length_le (by rw [List.length_append]; exact hle), List.map_append]
    rfl
  · have hbelow : R.length < w.skip := by omega
    rw [if_neg (by simpa using hskip), h.lines]
    show _ = (((R ++ [r]).drop w.skip).take w.height).map List.flatten
    rw [List.drop_eq_nil_of_le hbelow.le,
      List.drop_eq_nil_of_le (by rw [List.length_append]; exact hbelow)]

omit [Graphemes] in
/-- A logical line is wrapped as its rows, wherever the window starts and ends. -/
theorem Shows.pushLine (h : w.Shows R) (hroom : w.full = false) {row : List (List Char)}
    (htext : text = if w.skip ≤ w.row then row.flatten else []) (items : List (List Char)) :
    (w.pushLine text (Wrap.total CellWidth.cells row) items).Shows
      (R ++ Wrap.rowsFrom CellWidth.cells w.width row items) := by
  induction items generalizing w R row text with
  | nil => exact h.line hroom htext
  | cons g items ih =>
    unfold TextWindow.pushLine Wrap.rowsFrom
    by_cases hbreaks : Wrap.Breaks CellWidth.cells w.width row g
    · have hguard : (decide (0 < Wrap.total CellWidth.cells row) && decide (w.width <
          Wrap.total CellWidth.cells row + CellWidth.cells g)) = true := by
        simpa [Wrap.Breaks] using hbreaks
      have hline := h.line hroom htext
      dsimp only
      rw [if_pos hguard, if_pos hbreaks]
      cases hfull : (w.line text).full with
      | true =>
        rw [if_pos rfl]
        simpa using hline.full hfull (Wrap.rowsFrom CellWidth.cells w.width [g] items)
      | false =>
        rw [if_neg (by simp)]
        have hnext : ((w.line text).pushLine
            (if (w.line text).skip ≤ (w.line text).row then g else [])
            (Wrap.total CellWidth.cells [g]) items).Shows
              (R ++ [row] ++ Wrap.rowsFrom CellWidth.cells w.width [g] items) :=
          ih hline hfull (by simp)
        rw [Wrap.total_singleton] at hnext
        simpa using hnext
    · have hguard : ¬(decide (0 < Wrap.total CellWidth.cells row) && decide (w.width <
          Wrap.total CellWidth.cells row + CellWidth.cells g)) = true := by
        simpa [Wrap.Breaks] using hbreaks
      dsimp only
      rw [if_neg hguard, if_neg hbreaks]
      have hnext : (w.pushLine (if w.skip ≤ w.row then text ++ g else text)
          (Wrap.total CellWidth.cells (row ++ [g])) items).Shows
            (R ++ Wrap.rowsFrom CellWidth.cells w.width (row ++ [g]) items) := by
        apply ih h hroom
        split
        · next hskip => simp [htext, hskip]
        · next hskip => simp [htext, hskip]
      rw [Wrap.total_concat] at hnext
      exact hnext

omit [Graphemes] [CellWidth] in
/-- The size of a window and the rows it skips are fixed. -/
structure Framed (w w' : TextWindow) : Prop where
  width : w'.width = w.width
  height : w'.height = w.height
  skip : w'.skip = w.skip

omit [Graphemes] [CellWidth] in
theorem Framed.trans {w' w'' : TextWindow} (h : Framed w w') (h' : Framed w' w'') :
    Framed w w'' :=
  ⟨h'.width.trans h.width, h'.height.trans h.height, h'.skip.trans h.skip⟩

omit [Graphemes] in
theorem pushLine_framed (text : List Char) (n : ℕ) (items : List (List Char)) :
    Framed w (w.pushLine text n items) := by
  induction items generalizing w text n with
  | nil => exact ⟨rfl, rfl, rfl⟩
  | cons g items ih =>
    have hline : Framed w (w.line text) := ⟨rfl, rfl, rfl⟩
    unfold TextWindow.pushLine
    dsimp only
    split
    · split
      · exact hline
      · exact hline.trans (ih _ _)
    · exact ih _ _

theorem pushLines_framed (list : List (List Char)) : Framed w (w.pushLines list) := by
  induction list generalizing w with
  | nil => exact ⟨rfl, rfl, rfl⟩
  | cons logicalLine rest ih =>
    have hline := pushLine_framed (w := w) [] 0 (displayed logicalLine)
    unfold TextWindow.pushLines
    dsimp only
    split
    · exact hline
    · exact hline.trans ih

theorem push_framed (value : List Char) : Framed w (w.push value) := by
  unfold TextWindow.push
  split
  · exact ⟨rfl, rfl, rfl⟩
  · exact pushLines_framed _

theorem call_framed (c : Call) : Framed w (w.call c) := by
  cases c with
  | push value => exact push_framed value
  | field label value =>
    show Framed w (w.field label value)
    unfold TextWindow.field
    split
    · exact ⟨rfl, rfl, rfl⟩
    · exact (push_framed label).trans (push_framed value)

theorem calls_framed (calls : List Call) : Framed w (calls.foldl TextWindow.call w) := by
  induction calls generalizing w with
  | nil => exact ⟨rfl, rfl, rfl⟩
  | cons c calls ih => exact (call_framed c).trans ih

theorem Shows.pushLines (h : w.Shows R) (hroom : w.full = false) (list : List (List Char)) :
    (w.pushLines list).Shows (R ++ list.flatMap fun logicalLine =>
      Wrap.rows CellWidth.cells w.width (displayed logicalLine)) := by
  induction list generalizing w R with
  | nil => simpa [TextWindow.pushLines] using h
  | cons logicalLine rest ih =>
    have hline : (w.pushLine [] (Wrap.total CellWidth.cells []) (displayed logicalLine)).Shows
        (R ++ Wrap.rowsFrom CellWidth.cells w.width [] (displayed logicalLine)) :=
      h.pushLine hroom (by simp) _
    have hwidth := (pushLine_framed (w := w) [] 0 (displayed logicalLine)).width
    unfold TextWindow.pushLines
    rw [List.flatMap_cons, ← List.append_assoc]
    dsimp only
    cases hfull : (w.pushLine [] 0 (displayed logicalLine)).full with
    | true => exact hline.full hfull _
    | false =>
      have hnext := ih hline hfull
      rw [Wrap.total_nil, hwidth] at hnext
      rw [if_neg (by simp)]
      exact hnext

theorem Shows.push (h : w.Shows R) (value : List Char) :
    (w.push value).Shows (R ++ textRows w.width value) := by
  unfold TextWindow.push
  cases hfull : w.full with
  | true => exact h.full hfull _
  | false =>
    rw [if_neg (by simp)]
    exact h.pushLines hfull _

theorem Shows.call (h : w.Shows R) (c : Call) :
    (w.call c).Shows (R ++ c.texts.flatMap (textRows w.width)) := by
  cases c with
  | push value =>
    have hpush : (w.call (.push value)).Shows (R ++ textRows w.width value) := h.push value
    simpa [Call.texts] using hpush
  | field label value =>
    show (w.field label value).Shows _
    unfold TextWindow.field
    cases hfull : w.full with
    | true => exact h.full hfull _
    | false =>
      have hboth := (h.push label).push value
      rw [(push_framed label).width] at hboth
      rw [if_neg (by simp)]
      simpa [Call.texts] using hboth

theorem Shows.calls (h : w.Shows R) (calls : List Call) :
    (calls.foldl TextWindow.call w).Shows
      (R ++ (calls.flatMap Call.texts).flatMap (textRows w.width)) := by
  induction calls generalizing w R with
  | nil => simpa using h
  | cons c calls ih =>
    have hrest := ih (h.call c)
    rw [(call_framed c).width] at hrest
    simpa using hrest

omit [Graphemes] [CellWidth] in
theorem shows_new (width height skip : ℕ) : (new width height skip).Shows [] :=
  ⟨by simp [new], fun _ => rfl⟩

/-- The rows of a logical line make up the line, escaped. -/
theorem flatten_rows (width : ℕ) (logicalLine : List Char) :
    (Wrap.rows CellWidth.cells width (displayed logicalLine)).flatten.flatten =
      escapeTerminal logicalLine := by
  unfold Wrap.rows
  rw [Wrap.flatten_rowsFrom, List.nil_append, flatten_displayed]

theorem textRows_spec {width : ℕ} {value : List Char} {row : List (List Char)}
    (h : row ∈ textRows width value) :
    Printable row.flatten ∧
      (Wrap.total CellWidth.cells row ≤ width ∨ ∃ g ∈ row, width < CellWidth.cells g) := by
  obtain ⟨logicalLine, -, hrow⟩ := List.mem_flatMap.mp h
  refine ⟨fun c hc => ?_, Wrap.fits_of_mem hrow (.inl (Nat.zero_le _))⟩
  obtain ⟨g, hg, hcg⟩ := List.mem_flatten.mp hc
  have hshown : g ∈ displayed logicalLine := by
    have hflat : (Wrap.rows CellWidth.cells width (displayed logicalLine)).flatten =
        displayed logicalLine := Wrap.flatten_rowsFrom
    rw [← hflat]
    exact List.mem_flatten.mpr ⟨row, hrow, hg⟩
  exact displayed_printable hshown c hcg

end TextWindow

section preview

variable [Graphemes] [CellWidth]

omit [Graphemes] [CellWidth] in
theorem previewGrapheme_printable (g : List Char) : Printable (previewGrapheme g) := by
  unfold previewGrapheme
  split
  · intro c hc
    simp only [List.mem_cons, List.not_mem_nil, or_false] at hc
    rcases hc with rfl | rfl | rfl
    · rfl
    · rfl
    · rfl
  · rw [safeGrapheme_eq]
    exact escapeTerminal_printable g

omit [Graphemes] [CellWidth] in
/-- The first `n` graphemes, and an ellipsis unless these are all. -/
def previewPieces (gs : List (List Char)) (n : ℕ) : List (List Char) :=
  (gs.take n).map previewGrapheme ++ if n < gs.length then [['…']] else []

omit [Graphemes] [CellWidth] in
theorem previewPieces_stop (g : List Char) (rest : List (List Char)) :
    previewPieces (g :: rest) 0 = [['…']] := by simp [previewPieces]

omit [Graphemes] [CellWidth] in
theorem previewPieces_next (g : List Char) (rest : List (List Char)) (n : ℕ) :
    previewPieces (g :: rest) (n + 1) = previewGrapheme g :: previewPieces rest n := by
  simp [previewPieces]

omit [Graphemes] in
/-- What the loop adds fits, if there is room for an ellipsis wherever something follows. -/
theorem previewFrom_spec (cells : ℕ) (output : List Char) (used : ℕ) (gs : List (List Char))
    (hroom : used + (if gs.isEmpty then 0 else 1) ≤ cells) :
    ∃ n, previewFrom cells output used gs = output ++ (previewPieces gs n).flatten ∧
      used + Wrap.total CellWidth.cells (previewPieces gs n) ≤ cells := by
  induction gs generalizing output used with
  | nil => exact ⟨0, by simp [previewFrom, previewPieces], by simpa [previewPieces] using hroom⟩
  | cons g rest ih =>
    have hstop : ∃ n, output ++ ['…'] = output ++ (previewPieces (g :: rest) n).flatten ∧
        used + Wrap.total CellWidth.cells (previewPieces (g :: rest) n) ≤ cells := by
      refine ⟨0, by rw [previewPieces_stop]; rfl, ?_⟩
      rw [previewPieces_stop, Wrap.total_singleton, CellWidth.ellipsis]
      exact hroom
    unfold previewFrom
    by_cases hlong : 1024 < Utf8.len output + Utf8.len g
    · rw [if_pos hlong]
      exact hstop
    · rw [if_neg hlong]
      dsimp only
      by_cases hwide : cells < used + CellWidth.cells (previewGrapheme g) +
          if rest.isEmpty then 0 else 1
      · rw [if_pos hwide]
        exact hstop
      · rw [if_neg hwide]
        obtain ⟨n, houtput, hcells⟩ := ih (output ++ previewGrapheme g)
          (used + CellWidth.cells (previewGrapheme g)) (by omega)
        refine ⟨n + 1, ?_, ?_⟩
        · rw [houtput, previewPieces_next, List.flatten_cons, List.append_assoc]
        · rw [previewPieces_next]
          simp only [Wrap.total, List.map_cons, List.sum_cons] at hcells ⊢
          omega

theorem preview_spec (value : List Char) (cells : ℕ) :
    Printable (preview value cells) ∧
      ∃ n, (preview value cells = [] ∧ cells = 0 ∨
        preview value cells = (previewPieces (graphemes value) n).flatten ∧
          Wrap.total CellWidth.cells (previewPieces (graphemes value) n) ≤ cells) := by
  have hpieces : ∀ n, Printable (previewPieces (graphemes value) n).flatten := by
    intro n c hc
    obtain ⟨piece, hpiece, hmem⟩ := List.mem_flatten.mp hc
    rcases List.mem_append.mp hpiece with hshown | hrest
    · obtain ⟨g, -, rfl⟩ := List.mem_map.mp hshown
      exact previewGrapheme_printable g c hmem
    · split at hrest
      · obtain rfl := List.mem_singleton.mp hrest
        obtain rfl := List.mem_singleton.mp hmem
        decide
      · cases hrest
  unfold preview
  split
  · next hzero => exact ⟨by simp [Printable], 0, .inl ⟨rfl, hzero⟩⟩
  · next hpos =>
    obtain ⟨n, houtput, hcells⟩ := previewFrom_spec cells [] 0 (graphemes value) (by
      split <;> omega)
    rw [List.nil_append] at houtput
    rw [Nat.zero_add] at hcells
    exact ⟨houtput ▸ hpieces n, n, .inr ⟨houtput, hcells⟩⟩

/-- The window keeps exactly its rows of the escaped and wrapped texts, no line and no preview has
a control, and neither is wider than its place, a line with a single wide grapheme apart. -/
theorem window_exact (width height skip : ℕ) (calls : List TextWindow.Call) :
    let w := calls.foldl TextWindow.call (.new width height skip)
    let shown := ((calls.flatMap TextWindow.Call.texts).flatMap
      (TextWindow.textRows (max width 1))).drop skip |>.take height
    w.lines = shown.map List.flatten ∧
    (∀ row ∈ shown, Printable row.flatten ∧
      (Wrap.total CellWidth.cells row ≤ max width 1 ∨
        ∃ g ∈ row, max width 1 < CellWidth.cells g)) ∧
    (∀ value, lines (escapeMultiline value) = (lines value).map fun logicalLine =>
      (Wrap.rows CellWidth.cells (max width 1)
        (TextWindow.displayed logicalLine)).flatten.flatten) ∧
    ∀ value cells, Printable (preview value cells) ∧
      ∃ n, (preview value cells = [] ∧ cells = 0 ∨
        preview value cells = (previewPieces (graphemes value) n).flatten ∧
          Wrap.total CellWidth.cells (previewPieces (graphemes value) n) ≤ cells) := by
  refine ⟨?_, fun row hrow => ?_, fun value => ?_, preview_spec⟩
  · have hlines := ((TextWindow.shows_new width height skip).calls calls).lines
    have hframed := TextWindow.calls_framed (w := .new width height skip) calls
    rw [hframed.skip, hframed.height] at hlines
    exact hlines
  · obtain ⟨value, -, hvalue⟩ :=
      List.mem_flatMap.mp (List.mem_of_mem_drop (List.mem_of_mem_take hrow))
    exact TextWindow.textRows_spec hvalue
  · rw [lines_escapeMultiline]
    exact List.map_congr_left fun logicalLine _ => (TextWindow.flatten_rows _ logicalLine).symm

end preview

end SessionRouter
