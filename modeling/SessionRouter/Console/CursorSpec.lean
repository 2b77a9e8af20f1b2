import SessionRouter.Console.Cursor
import SessionRouter.Console.WindowSpec
import Mathlib.Algebra.Order.BigOperators.Group.List
import Mathlib.Data.List.Induction

/-!
The cell of the cursor against the rows of the text: where both agree, and which positions of the
cursor are shown at one cell.
-/

namespace SessionRouter

open TextWindow

section

variable [Graphemes] [CellWidth] {W : ℕ} {before after text : List Char}

/-- The row that a text has come to. -/
def lastRow (W : ℕ) (before : List Char) : List (List Char) := Wrap.lastRow (textRows W before)

/-- The row and the column after a text. -/
def pen (W : ℕ) (before : List Char) : ℕ × ℕ :=
  ((textRows W before).length - 1, Wrap.total CellWidth.cells (lastRow W before))

section layout

theorem textRows_ne_nil (W : ℕ) (text : List Char) : textRows W text ≠ [] := by
  unfold textRows
  cases hlines : lines text with
  | nil => exact absurd hlines (List.splitOn_ne_nil '\n' text)
  | cons first rest =>
    rw [List.flatMap_cons]
    exact List.append_ne_nil_of_left_ne_nil Wrap.rowsFrom_ne_nil _

/-- A newline ends a row. -/
theorem textRows_newline (W : ℕ) (before after : List Char) :
    textRows W (before ++ '\n' :: after) = textRows W before ++ textRows W after := by
  unfold textRows lines
  rw [List.splitOn_append_cons_self, List.flatMap_append]

theorem textRows_line (h : '\n' ∉ text) :
    textRows W text = Wrap.rows CellWidth.cells W (displayed text) := by
  unfold textRows lines
  rw [List.splitOn_eq_singleton h]
  simp

omit [Graphemes] [CellWidth] in
theorem dropLast_concat_lastRow {α : Type} {rows : List (List α)} (h : rows ≠ []) :
    rows.dropLast ++ [Wrap.lastRow rows] = rows := by
  unfold Wrap.lastRow
  rw [List.getLastD_eq_getLast?, List.getLast?_eq_some_getLast h]
  exact List.dropLast_concat_getLast h

/-- The part of a line after a boundary is laid out after the row that comes to it. -/
theorem textRows_append (hcr : '\r' ∉ before)
    (hcut : graphemes (before ++ after) = graphemes before ++ graphemes after)
    (hline : '\n' ∉ after) :
    textRows W (before ++ after) = (textRows W before).dropLast ++
      Wrap.rowsFrom CellWidth.cells W (lastRow W before) (displayed after) := by
  have hwhole : ∀ line : List Char, '\n' ∉ line →
      graphemes (line ++ after) = graphemes line ++ graphemes after →
      textRows W (line ++ after) = (textRows W line).dropLast ++
        Wrap.rowsFrom CellWidth.cells W (Wrap.lastRow (textRows W line)) (displayed after) := by
    intro line hnewline hparts
    have hboth : '\n' ∉ line ++ after := by simp [hnewline, hline]
    have hshown : displayed (line ++ after) = displayed line ++ displayed after := by
      unfold displayed
      rw [hparts, List.flatMap_append]
    rw [textRows_line hboth, textRows_line hnewline, hshown]
    exact Wrap.rowsFrom_append
  cases hfind : Utf8.rfind '\n' before with
  | none => exact hwhole before (Utf8.rfind_eq_none.mp hfind) hcut
  | some n =>
    obtain ⟨above, line, rfl, hnewline, -⟩ := Utf8.rfind_eq_some hfind
    have habove : '\r' ∉ above := fun hc => hcr (List.mem_append_left _ hc)
    have hparts : graphemes (line ++ after) = graphemes line ++ graphemes after := by
      rw [List.append_assoc, List.cons_append, graphemes_newline _ habove,
        graphemes_newline _ habove, List.append_assoc] at hcut
      exact (List.cons.inj (List.append_cancel_left hcut)).2
    have hrows := hwhole line hnewline hparts
    unfold lastRow
    rw [List.append_assoc, List.cons_append, textRows_newline, textRows_newline, hrows,
      List.dropLast_append_of_ne_nil (textRows_ne_nil W line), List.append_assoc]
    congr 2
    unfold Wrap.lastRow
    rw [List.getLastD_eq_getLast?, List.getLastD_eq_getLast?,
      List.getLast?_append_of_ne_nil _ (textRows_ne_nil W line)]

end layout

/-- Every grapheme that the text shows fits in a row. -/
def FitsIn (W : ℕ) (text : List Char) : Prop :=
  ∀ g ∈ graphemes text, g ≠ ['\n'] → ∀ d ∈ graphemes (safeGrapheme g), CellWidth.cells d ≤ W

section pen

omit [Graphemes] in
/-- The inner loop goes where the rows go. -/
theorem foldl_placeDisplayed {items : List (List Char)} (hfit : ∀ d ∈ items, CellWidth.cells d ≤ W)
    (i : ℕ) (row : List (List Char)) :
    items.foldl (placeDisplayed W) (i, Wrap.total CellWidth.cells row) =
      (i + ((Wrap.rowsFrom CellWidth.cells W row items).length - 1),
        Wrap.total CellWidth.cells (Wrap.lastRow (Wrap.rowsFrom CellWidth.cells W row items))) := by
  induction items generalizing i row with
  | nil => simp [Wrap.rowsFrom, Wrap.lastRow]
  | cons d items ih =>
    have hd := hfit d List.mem_cons_self
    have hrest := fun e he => hfit e (List.mem_cons_of_mem _ he)
    rw [List.foldl_cons]
    by_cases hbreaks : Wrap.Breaks CellWidth.cells W row d
    · have hplace : placeDisplayed W (i, Wrap.total CellWidth.cells row) d =
        (i + 1, Wrap.total CellWidth.cells [d]) := by
        unfold placeDisplayed
        dsimp only
        rw [if_pos hbreaks.2, Wrap.total_singleton]
      rw [hplace, ih hrest]
      have hpos : 0 < (Wrap.rowsFrom CellWidth.cells W [d] items).length :=
        List.length_pos_iff.mpr Wrap.rowsFrom_ne_nil
      simp only [Wrap.rowsFrom, if_pos hbreaks, List.length_cons]
      apply Prod.ext
      · dsimp only
        omega
      · cases hrows : Wrap.rowsFrom CellWidth.cells W [d] items with
        | nil => exact absurd hrows Wrap.rowsFrom_ne_nil
        | cons first rest => rfl
    · have hplace : placeDisplayed W (i, Wrap.total CellWidth.cells row) d =
        (i, Wrap.total CellWidth.cells (row ++ [d])) := by
        unfold Wrap.Breaks at hbreaks
        unfold placeDisplayed
        dsimp only
        rw [if_neg (by omega), Wrap.total_concat]
      rw [hplace, ih hrest]
      simp only [Wrap.rowsFrom, if_neg hbreaks]

omit [CellWidth] in
/-- A cluster that holds a newline is that newline. -/
theorem newline_not_mem_cluster {g : List Char} (hg : graphemes g = [g]) (hcr : '\r' ∉ g)
    (hne : g ≠ ['\n']) : '\n' ∉ g := by
  intro hmem
  obtain ⟨a, b, rfl⟩ := List.append_of_mem hmem
  have hcut := graphemes_newline b fun hc => hcr (List.mem_append_left _ hc)
  rw [hg] at hcut
  have hlen := congrArg List.length hcut
  simp only [List.length_append, List.length_cons, List.length_nil] at hlen
  have ha : graphemes a = [] := List.length_eq_zero_iff.mp (by omega)
  have hb : graphemes b = [] := List.length_eq_zero_iff.mp (by omega)
  rw [show a = [] from Segmentation.clusters_eq_nil.mp ha,
    show b = [] from Segmentation.clusters_eq_nil.mp hb] at hne
  exact hne rfl

omit [CellWidth] in
theorem displayed_cluster {g : List Char} (hg : graphemes g = [g]) :
    displayed g = graphemes (safeGrapheme g) := by
  unfold displayed
  rw [hg]
  simp

/-- The pen after one more grapheme. -/
theorem pen_concat {x g : List Char} (hcr : '\r' ∉ x ++ g)
    (hcut : graphemes (x ++ g) = graphemes x ++ [g]) (hg : graphemes g = [g])
    (hfit : FitsIn W (x ++ g)) : pen W (x ++ g) = placeGrapheme W (pen W x) g := by
  have hcrx : '\r' ∉ x := fun hc => hcr (List.mem_append_left _ hc)
  have hpos : 0 < (textRows W x).length := List.length_pos_iff.mpr (textRows_ne_nil W x)
  unfold placeGrapheme
  split
  · next hnewline =>
    subst hnewline
    have hrows : textRows W (x ++ ['\n']) = textRows W x ++ [[]] := textRows_newline W x []
    unfold pen lastRow
    rw [hrows, List.length_append, Wrap.lastRow, List.getLastD_concat]
    simp only [List.length_singleton, Wrap.total_nil]
    apply Prod.ext
    · dsimp only
      omega
    · rfl
  · next hne =>
    have hcrg : '\r' ∉ g := fun hc => hcr (List.mem_append_right _ hc)
    have hline := newline_not_mem_cluster hg hcrg hne
    have hparts : graphemes (x ++ g) = graphemes x ++ graphemes g := by rw [hcut, hg]
    have hrows := textRows_append (W := W) hcrx hparts hline
    have hshown : ∀ d ∈ displayed g, CellWidth.cells d ≤ W := by
      rw [displayed_cluster hg]
      exact hfit g (by rw [hcut]; simp) hne
    rw [← displayed_cluster hg]
    show _ = (displayed g).foldl (placeDisplayed W) ((textRows W x).length - 1, _)
    rw [foldl_placeDisplayed hshown]
    have hlen : 0 < (Wrap.rowsFrom CellWidth.cells W (lastRow W x) (displayed g)).length :=
      List.length_pos_iff.mpr Wrap.rowsFrom_ne_nil
    unfold pen
    apply Prod.ext
    · dsimp only
      rw [hrows, List.length_append, List.length_dropLast]
      omega
    · dsimp only
      conv_lhs => rw [lastRow, hrows, Wrap.lastRow, List.getLastD_eq_getLast?,
        List.getLast?_append_of_ne_nil _ Wrap.rowsFrom_ne_nil, ← List.getLastD_eq_getLast?]
      rfl

/-- The loop over the graphemes before the cursor follows the layout. -/
theorem foldl_placeGrapheme (hcr : '\r' ∉ before) (hfit : FitsIn W before) :
    (graphemes before).foldl (placeGrapheme W) (0, 0) = pen W before := by
  induction hgs : graphemes before using List.reverseRecOn generalizing before with
  | nil =>
    obtain rfl : before = [] := Segmentation.clusters_eq_nil.mp hgs
    rfl
  | append_singleton gs g ih =>
    obtain ⟨hx, hg⟩ := Segmentation.clusters_cut hgs
    rw [List.flatten_singleton] at hg
    have hbefore : before = gs.flatten ++ g := by
      rw [← flatten_graphemes before, hgs]
      simp
    have hcut : graphemes (gs.flatten ++ g) = graphemes gs.flatten ++ [g] := by
      rw [← hbefore, hgs]
      exact congrArg (· ++ [g]) hx.symm
    rw [hbefore] at hcr hfit
    have hfitx : FitsIn W gs.flatten := by
      intro g' hg'
      exact hfit g' (by rw [hcut]; exact List.mem_append_left _ hg')
    rw [List.foldl_append, ih (fun hc => hcr (List.mem_append_left _ hc)) hfitx hx, hbefore,
      pen_concat hcr hcut hg hfit]
    rfl

end pen

/-- The cursor may stand between these two parts of the text. -/
def Cut (text before after : List Char) : Prop :=
  text = before ++ after ∧ graphemes text = graphemes before ++ graphemes after

omit [CellWidth] in
theorem boundary_iff_cut {n : ℕ} :
    Boundary text n ↔ ∃ before after, Cut text before after ∧ n = Utf8.len before := by
  constructor
  · intro h
    obtain ⟨before, after, htext, hn, hcut⟩ := h.split
    exact ⟨before, after, ⟨htext, hcut⟩, hn⟩
  · rintro ⟨before, after, ⟨rfl, hcut⟩, rfl⟩
    exact boundary_of_split hcut

/-- The grapheme is drawn in this cell, directly after what is drawn of the text before it. -/
def Placed (W : ℕ) (text before grapheme : List Char) (cell : ℕ × ℕ) : Prop :=
  ∃ above left right below, textRows W text = above ++ (left ++ grapheme :: right) :: below ∧
    (above ++ [left] = textRows W before ∨ left = [] ∧ above = textRows W before) ∧
    cell = (above.length, Wrap.total CellWidth.cells left)

/-- The cell after the last one of a text, in the next row when its row is full. -/
def endCell (W : ℕ) (before : List Char) : ℕ × ℕ :=
  if W ≤ Wrap.total CellWidth.cells (lastRow W before) then ((textRows W before).length, 0)
  else ((textRows W before).length - 1, Wrap.total CellWidth.cells (lastRow W before))

/-- The grapheme that the cursor stands before, unless it is a newline or has no width. -/
def Follows (after grapheme : List Char) : Prop :=
  ∃ g rest ds, graphemes after = g :: rest ∧ g ≠ ['\n'] ∧
    graphemes (safeGrapheme g) = grapheme :: ds ∧ 0 < CellWidth.cells grapheme

/-- The cursor is shown where the text is drawn. -/
def ShownRight (W : ℕ) (text before after : List Char) (cell : ℕ × ℕ) : Prop :=
  (∀ grapheme, Follows after grapheme → Placed W text before grapheme cell) ∧
    (after = [] ∨ (∃ rest, after = '\n' :: rest) → cell = endCell W before)

section placed

/-- What follows a cursor is laid out in the row that the text before it has come to. -/
theorem textRows_follows {grapheme : List Char} (hcr : '\r' ∉ text) (hcut : Cut text before after)
    (hfollows : Follows after grapheme) :
    ∃ items more, textRows W text = (textRows W before).dropLast ++
      Wrap.rowsFrom CellWidth.cells W (lastRow W before) (grapheme :: items) ++ more := by
  obtain ⟨g, rest, ds, hafter, hne, hshown, -⟩ := hfollows
  obtain ⟨rfl, hparts⟩ := hcut
  simp only [List.mem_append, not_or] at hcr
  have hfirst : ∀ line gs, graphemes line = g :: gs →
      ∃ items, displayed line = grapheme :: items := by
    intro line gs hline
    refine ⟨ds ++ gs.flatMap fun g => graphemes (safeGrapheme g), ?_⟩
    unfold displayed
    rw [hline, List.flatMap_cons, hshown]
    rfl
  cases hfind : Utf8.find '\n' after with
  | none =>
    obtain ⟨items, hitems⟩ := hfirst after rest hafter
    have hrows := textRows_append (W := W) hcr.1 hparts (Utf8.find_eq_none.mp hfind)
    exact ⟨items, [], by rw [hrows, hitems, List.append_nil]⟩
  | some n =>
    obtain ⟨line, below, rfl, hline, -⟩ := Utf8.find_eq_some hfind
    have hcrLine : '\r' ∉ line := fun hc => hcr.2 (List.mem_append_left _ hc)
    have hcrBoth : '\r' ∉ before ++ line := by simp [hcr.1, hcrLine]
    rw [graphemes_newline below hcrLine] at hafter
    obtain ⟨gs, hgs⟩ : ∃ gs, graphemes line = g :: gs := by
      cases hcase : graphemes line with
      | nil =>
        rw [hcase] at hafter
        exact absurd (List.cons.inj hafter).1.symm hne
      | cons g' gs =>
        rw [hcase] at hafter
        obtain ⟨rfl, -⟩ := List.cons.inj hafter
        exact ⟨gs, rfl⟩
    obtain ⟨items, hitems⟩ := hfirst line gs hgs
    have hlineCut : graphemes (before ++ line) = graphemes before ++ graphemes line := by
      rw [← List.append_assoc, graphemes_newline below hcrBoth,
        graphemes_newline below hcrLine, ← List.append_assoc] at hparts
      exact List.append_cancel_right hparts
    have hrows := textRows_append (W := W) hcr.1 hlineCut hline
    refine ⟨items, textRows W below, ?_⟩
    rw [← List.append_assoc, textRows_newline, hrows, hitems]

omit [Graphemes] [CellWidth] in
theorem ne_append_cons {α : Type} (l right : List α) (a : α) : l ≠ l ++ a :: right := by
  intro h
  have hlen := congrArg List.length h
  simp at hlen

/-- A grapheme is drawn in one cell only. -/
theorem placed_iff {grapheme : List Char} {cell : ℕ × ℕ} (hcr : '\r' ∉ text)
    (hcut : Cut text before after) (hfollows : Follows after grapheme) :
    Placed W text before grapheme cell ↔
      cell = if Wrap.Breaks CellWidth.cells W (lastRow W before) grapheme then
        ((textRows W before).length, 0) else pen W before := by
  obtain ⟨items, more, hrows⟩ := textRows_follows (W := W) hcr hcut hfollows
  have hlast := dropLast_concat_lastRow (textRows_ne_nil W before)
  have hlen : ((textRows W before).dropLast).length = (textRows W before).length - 1 :=
    List.length_dropLast
  unfold Placed
  split
  · next hbreaks =>
    obtain ⟨right, below, hnext⟩ := Wrap.rowsFrom_eq_cons CellWidth.cells W [grapheme] items
    have hwhole : textRows W text =
        textRows W before ++ ([] ++ grapheme :: right) :: (below ++ more) := by
      rw [hrows, Wrap.rowsFrom, if_pos hbreaks, hnext]
      conv_rhs => rw [← hlast]
      simp [lastRow]
    constructor
    · rintro ⟨above, left, right', below', htext, hbefore | ⟨rfl, rfl⟩, rfl⟩
      · rw [hwhole, ← hbefore, List.append_assoc] at htext
        have hhead := (List.cons.inj (List.append_cancel_left htext)).1
        exact absurd hhead (ne_append_cons _ _ _)
      · rfl
    · rintro rfl
      exact ⟨_, [], right, _, hwhole, .inr ⟨rfl, rfl⟩, rfl⟩
  · next hbreaks =>
    obtain ⟨right, below, hnext⟩ := Wrap.rowsFrom_eq_cons CellWidth.cells W
      (lastRow W before ++ [grapheme]) items
    have hwhole : textRows W text = (textRows W before).dropLast ++
        (lastRow W before ++ grapheme :: right) :: (below ++ more) := by
      rw [hrows, Wrap.rowsFrom, if_neg hbreaks, hnext]
      simp
    have hcell : pen W before = ((textRows W before).dropLast.length,
        Wrap.total CellWidth.cells (lastRow W before)) := by rw [hlen]; rfl
    constructor
    · rintro ⟨above, left, right', below', htext, hbefore | ⟨rfl, rfl⟩, rfl⟩
      · rw [← hlast] at hbefore
        obtain ⟨rfl, hleft⟩ := List.append_inj' hbefore rfl
        obtain rfl := (List.cons.inj hleft).1
        exact hcell.symm
      · rw [hwhole] at htext
        conv_rhs at htext => rw [← hlast]
        rw [List.append_assoc] at htext
        have hhead := (List.cons.inj (List.append_cancel_left htext)).1
        exact absurd hhead.symm (ne_append_cons _ _ _)
    · rintro rfl
      exact ⟨_, _, right, _, hwhole, .inl hlast, hcell⟩

end placed

/-- The grapheme after the cursor opens a new row although the last one has room. -/
def EarlyBreak (W : ℕ) (before after : List Char) : Prop :=
  ∃ grapheme, Follows after grapheme ∧ 0 < Wrap.total CellWidth.cells (lastRow W before) ∧
    Wrap.total CellWidth.cells (lastRow W before) < W ∧
    W < Wrap.total CellWidth.cells (lastRow W before) + CellWidth.cells grapheme

section shown

theorem rollOver_pen (W : ℕ) (before : List Char) : rollOver W (pen W before) =
    endCell W before := by
  have hpos : 0 < (textRows W before).length := List.length_pos_iff.mpr (textRows_ne_nil W before)
  unfold rollOver endCell pen
  dsimp only
  rw [Nat.sub_add_cancel hpos]

/-- `input_cursor` at a cut of the text. -/
theorem inputCursor_eq (hcr : '\r' ∉ text) (hfit : FitsIn W text) (hcut : Cut text before after)
    (maxBytes : ℕ) (multiline : Bool) :
    inputCursor { text, cursor := Utf8.len before, maxBytes, multiline } W =
      some (endCell W before) := by
  obtain ⟨rfl, hparts⟩ := hcut
  have hfitBefore : FitsIn W before := fun g hg => hfit g (by rw [hparts]; simp [hg])
  unfold inputCursor
  rw [Utf8.splitAt_len, Option.map_some]
  dsimp only
  rw [foldl_placeGrapheme (fun hc => hcr (List.mem_append_left _ hc)) hfitBefore, rollOver_pen]

/-- The cursor is shown where the text is drawn unless the next grapheme opens a row early. -/
theorem shownRight_iff (hW : 0 < W) (hcr : '\r' ∉ text) (hcut : Cut text before after) :
    ShownRight W text before after (endCell W before) ↔ ¬ EarlyBreak W before after := by
  have hpos : 0 < (textRows W before).length := List.length_pos_iff.mpr (textRows_ne_nil W before)
  have hcell : ∀ grapheme, Follows after grapheme →
      (Placed W text before grapheme (endCell W before) ↔
        ¬(0 < Wrap.total CellWidth.cells (lastRow W before) ∧
          Wrap.total CellWidth.cells (lastRow W before) < W ∧
          W < Wrap.total CellWidth.cells (lastRow W before) + CellWidth.cells grapheme)) := by
    intro grapheme hfollows
    have hwide : 0 < CellWidth.cells grapheme := by
      obtain ⟨g, rest, ds, -, -, -, hwide⟩ := hfollows
      exact hwide
    have hbreaks : Wrap.Breaks CellWidth.cells W (lastRow W before) grapheme ↔
        0 < Wrap.total CellWidth.cells (lastRow W before) ∧
          W < Wrap.total CellWidth.cells (lastRow W before) + CellWidth.cells grapheme := Iff.rfl
    rw [placed_iff hcr hcut hfollows]
    unfold endCell pen
    split
    · next hfull =>
      rw [if_pos (hbreaks.mpr (by omega))]
      simp only [true_iff]
      omega
    · next hroom =>
      split
      · next h =>
        rw [hbreaks] at h
        simp only [Prod.mk.injEq]
        omega
      · next h =>
        rw [hbreaks] at h
        simp only [true_iff]
        omega
  constructor
  · rintro ⟨hshown, -⟩ ⟨grapheme, hfollows, hearly⟩
    exact (hcell grapheme hfollows).mp (hshown grapheme hfollows) hearly
  · intro hnone
    refine ⟨fun grapheme hfollows => (hcell grapheme hfollows).mpr fun hearly => ?_, fun _ => rfl⟩
    exact hnone ⟨grapheme, hfollows, hearly⟩

end shown

section order

/-- The number of cells before a position, which a full row shares with the start of the next. -/
def key (W : ℕ) (cell : ℕ × ℕ) : ℕ := cell.1 * W + cell.2

omit [Graphemes] [CellWidth] in
theorem key_rollOver {cell : ℕ × ℕ} (h : cell.2 ≤ W) : key W (rollOver W cell) = key W cell := by
  unfold rollOver key
  split
  · next hfull =>
    have heq : cell.2 = W := by omega
    rw [heq, Nat.succ_mul]
    rfl
  · rfl

omit [Graphemes] in
theorem key_placeDisplayed {cell : ℕ × ℕ} {d : List Char} (hcell : cell.2 ≤ W)
    (hd : CellWidth.cells d ≤ W) :
    (placeDisplayed W cell d).2 ≤ W ∧ key W cell + CellWidth.cells d ≤
    key W (placeDisplayed W cell d) := by
  unfold placeDisplayed key
  dsimp only
  split
  · refine ⟨hd, ?_⟩
    rw [Nat.succ_mul]
    omega
  · exact ⟨by dsimp only; omega, by dsimp only; omega⟩

omit [Graphemes] in
theorem key_foldl_placeDisplayed {items : List (List Char)} {cell : ℕ × ℕ} (hcell : cell.2 ≤ W)
    (hfit : ∀ d ∈ items, CellWidth.cells d ≤ W) :
    (items.foldl (placeDisplayed W) cell).2 ≤ W ∧
      key W cell + Wrap.total CellWidth.cells items ≤
      key W (items.foldl (placeDisplayed W) cell) := by
  induction items generalizing cell with
  | nil => exact ⟨hcell, le_rfl⟩
  | cons d items ih =>
    obtain ⟨hnext, hkey⟩ := key_placeDisplayed hcell (hfit d List.mem_cons_self)
    obtain ⟨hlast, hrest⟩ := ih hnext fun e he => hfit e (List.mem_cons_of_mem _ he)
    refine ⟨hlast, ?_⟩
    simp only [Wrap.total, List.map_cons, List.sum_cons, List.foldl_cons] at hrest ⊢
    omega

/-- The rows of a text whose graphemes fit are not wider than they may be. -/
theorem pen_le (hcr : '\r' ∉ before) (hfit : FitsIn W before) : (pen W before).2 ≤ W := by
  rw [← foldl_placeGrapheme hcr hfit]
  have hall : ∀ gs : List (List Char), (∀ g ∈ gs, g ≠ ['\n'] →
      ∀ d ∈ graphemes (safeGrapheme g), CellWidth.cells d ≤ W) → ∀ cell : ℕ × ℕ, cell.2 ≤ W →
      (gs.foldl (placeGrapheme W) cell).2 ≤ W := by
    intro gs hgs
    induction gs with
    | nil => exact fun cell hcell => hcell
    | cons g gs ih =>
      intro cell hcell
      apply ih fun g' hg' => hgs g' (List.mem_cons_of_mem _ hg')
      unfold placeGrapheme
      split
      · exact Nat.zero_le _
      · next hne =>
        exact (key_foldl_placeDisplayed hcell (hgs g List.mem_cons_self hne)).1
  exact hall _ hfit _ (Nat.zero_le _)

/-- One more grapheme goes on, unless it is a newline after a full row. -/
theorem key_placeGrapheme {cell : ℕ × ℕ} {g : List Char} (hcell : cell.2 ≤ W)
    (hfit : g ≠ ['\n'] → ∀ d ∈ graphemes (safeGrapheme g), CellWidth.cells d ≤ W)
    (hroom : g = ['\n'] → cell.2 < W) :
    key W cell ≤ key W (placeGrapheme W cell g) ∧
      ((g = ['\n'] ∨ ∃ d ∈ graphemes (safeGrapheme g), 0 < CellWidth.cells d) →
        key W cell < key W (placeGrapheme W cell g)) := by
  unfold placeGrapheme
  split
  · next hnewline =>
    have hlt := hroom hnewline
    have hkey : key W cell < key W (cell.1 + 1, 0) := by
      unfold key
      dsimp only
      rw [Nat.succ_mul]
      omega
    exact ⟨hkey.le, fun _ => hkey⟩
  · next hne =>
    have hkey := (key_foldl_placeDisplayed hcell (hfit hne)).2
    refine ⟨by omega, ?_⟩
    rintro (hnewline | ⟨d, hd, hpos⟩)
    · exact absurd hnewline hne
    · have hle : CellWidth.cells d ≤
          Wrap.total CellWidth.cells (graphemes (safeGrapheme g)) :=
        List.single_le_sum (fun _ _ => Nat.zero_le _) _ (List.mem_map_of_mem hd)
      omega

end order

/-- No newline follows a full row. -/
def NoFullLine (W : ℕ) (text : List Char) : Prop :=
  ∀ before after, text = before ++ '\n' :: after →
    Wrap.total CellWidth.cells (lastRow W before) < W

/-- The grapheme is a newline or shows something that takes a cell. -/
def VisibleGrapheme (g : List Char) : Prop :=
  g = ['\n'] ∨ ∃ d ∈ graphemes (safeGrapheme g), 0 < CellWidth.cells d

section distinct

variable {ps gs qs : List (List Char)} {g : List Char}

/-- The pen goes on over each grapheme of the text. -/
theorem key_pen_step (hcr : '\r' ∉ text) (hfit : FitsIn W text) (hroom : NoFullLine W text)
    (h : graphemes text = ps ++ g :: qs) :
    key W (pen W ps.flatten) ≤ key W (pen W (ps.flatten ++ g)) ∧
      (VisibleGrapheme g → key W (pen W ps.flatten) < key W (pen W (ps.flatten ++ g))) := by
  have htext : text = ps.flatten ++ g ++ qs.flatten := by
    rw [← flatten_graphemes text, h]
    simp
  have hwhole : graphemes text = (ps ++ [g]) ++ qs := by rw [h]; simp
  have hboth : graphemes (ps.flatten ++ g) = ps ++ [g] := by
    have hcut : graphemes (ps ++ [g]).flatten = ps ++ [g] := (Segmentation.clusters_cut hwhole).1
    simpa using hcut
  obtain ⟨hps, hg⟩ := Segmentation.clusters_cut hboth
  rw [List.flatten_singleton] at hg
  have hps' : graphemes ps.flatten = ps := hps
  have hcrBoth : '\r' ∉ ps.flatten ++ g := fun hc => hcr (htext ▸ List.mem_append_left _ hc)
  have hcrBefore : '\r' ∉ ps.flatten := fun hc => hcrBoth (List.mem_append_left _ hc)
  have hfitBoth : FitsIn W (ps.flatten ++ g) := by
    intro g' hg'
    exact hfit g' (by rw [hwhole, ← hboth]; exact List.mem_append_left _ hg')
  have hfitBefore : FitsIn W ps.flatten := by
    intro g' hg'
    exact hfit g' (by rw [h, ← hps']; exact List.mem_append_left _ hg')
  rw [pen_concat hcrBoth (by rw [hboth, hps']) hg hfitBoth]
  refine key_placeGrapheme (pen_le hcrBefore hfitBefore) (fun hne => ?_) fun hnewline => ?_
  · exact hfitBoth g (by rw [hboth]; simp) hne
  · apply hroom ps.flatten qs.flatten
    rw [htext, hnewline]
    simp

theorem key_pen_run (hcr : '\r' ∉ text) (hfit : FitsIn W text) (hroom : NoFullLine W text)
    (h : graphemes text = ps ++ gs ++ qs) :
    key W (pen W ps.flatten) ≤ key W (pen W (ps ++ gs).flatten) ∧
      ((∃ g ∈ gs, VisibleGrapheme g) →
        key W (pen W ps.flatten) < key W (pen W (ps ++ gs).flatten)) := by
  induction gs generalizing ps with
  | nil => simp
  | cons g gs ih =>
    obtain ⟨hle, hlt⟩ := key_pen_step hcr hfit hroom (by rw [h]; simp : graphemes text =
      ps ++ g :: (gs ++ qs))
    obtain ⟨hle', hlt'⟩ := ih (by rw [h]; simp : graphemes text = ps ++ [g] ++ gs ++ qs)
    have hfirst : (ps ++ [g]).flatten = ps.flatten ++ g := by simp
    have hrest : (ps ++ [g] ++ gs).flatten = (ps ++ g :: gs).flatten := by simp
    rw [hfirst, hrest] at hle' hlt'
    refine ⟨hle.trans hle', ?_⟩
    rintro ⟨g', hg', hvisible⟩
    rcases List.mem_cons.mp hg' with rfl | hg'
    · exact (hlt hvisible).trans_le hle'
    · exact hle.trans_lt (hlt' ⟨g', hg', hvisible⟩)

/-- Positions with something visible between them are shown in different cells. -/
theorem endCell_ne (hcr : '\r' ∉ text) (hfit : FitsIn W text) (hroom : NoFullLine W text)
    {before mid after : List Char} (htext : text = before ++ mid ++ after)
    (hparts : graphemes text = graphemes before ++ graphemes mid ++ graphemes after)
    (hvisible : ∃ g ∈ graphemes mid, VisibleGrapheme g) :
    endCell W before ≠ endCell W (before ++ mid) := by
  have hboth : graphemes (before ++ mid) = graphemes before ++ graphemes mid := by
    have hcut := (Segmentation.clusters_cut hparts).1
    rw [List.flatten_append] at hcut
    have hbefore := flatten_graphemes before
    have hmid := flatten_graphemes mid
    rw [hbefore, hmid] at hcut
    exact hcut
  have hfitBoth : FitsIn W (before ++ mid) := by
    intro g hg
    exact hfit g (by rw [hparts, ← hboth]; exact List.mem_append_left _ hg)
  have hfitBefore : FitsIn W before := by
    intro g hg
    exact hfitBoth g (by rw [hboth]; exact List.mem_append_left _ hg)
  have hcrBoth : '\r' ∉ before ++ mid := fun hc => hcr (htext ▸ List.mem_append_left _ hc)
  have hcrBefore : '\r' ∉ before := fun hc => hcrBoth (List.mem_append_left _ hc)
  have hlt := (key_pen_run hcr hfit hroom hparts).2 hvisible
  rw [List.flatten_append, flatten_graphemes, flatten_graphemes] at hlt
  intro hsame
  have hkey := congrArg (key W) hsame
  rw [← rollOver_pen, ← rollOver_pen, key_rollOver (pen_le hcrBefore hfitBefore),
    key_rollOver (pen_le hcrBoth hfitBoth)] at hkey
  omega

/-- A newline after a full row is shown where the next line starts. -/
theorem endCell_newline (hW : 0 < W)
    (hfull : W ≤ Wrap.total CellWidth.cells (lastRow W before)) :
    endCell W (before ++ ['\n']) = endCell W before := by
  have hrows : textRows W (before ++ ['\n']) = textRows W before ++ [[]] :=
    textRows_newline W before []
  have hlast : lastRow W (before ++ ['\n']) = [] := by
    unfold lastRow Wrap.lastRow
    rw [hrows, List.getLastD_concat]
  unfold endCell
  rw [if_pos hfull, hlast, hrows, if_neg (by rw [Wrap.total_nil]; omega)]
  simp

end distinct

/-- The cursor of an input line is shown where the text is drawn, and distinct positions in distinct
cells. -/
def CursorShown (W : ℕ) (text : List Char) : Prop :=
  ∀ b : InputBuffer, b.text = text → Boundary text b.cursor → ∃ cell,
    inputCursor b W = some cell ∧
    (∀ before after, Cut text before after → b.cursor = Utf8.len before →
      ShownRight W text before after cell) ∧
    ∀ (b' : InputBuffer) (before mid after : List Char), b'.text = text →
      Boundary text b'.cursor → text = before ++ mid ++ after → b.cursor = Utf8.len before →
        b'.cursor = Utf8.len (before ++ mid) → (∃ g ∈ graphemes mid, VisibleGrapheme g) →
          inputCursor b' W ≠ some cell

section runs

omit [CellWidth]

/-- Two cuts of a text cut it into three parts. -/
theorem Cut.between {mid : List Char} (h : Cut text before (mid ++ after))
    (h' : Cut text (before ++ mid) after) :
    graphemes text = graphemes before ++ graphemes mid ++ graphemes after := by
  have hprefixes : graphemes before <+: graphemes (before ++ mid) ∨
      graphemes (before ++ mid) <+: graphemes before :=
    List.prefix_or_prefix_of_prefix ⟨_, h.2.symm⟩ ⟨_, h'.2.symm⟩
  rcases hprefixes with ⟨ms, hms⟩ | ⟨ms, hms⟩
  · have hmid : ms.flatten = mid := by
      have hflat := congrArg List.flatten hms
      rw [List.flatten_append, flatten_graphemes, flatten_graphemes] at hflat
      exact List.append_cancel_left hflat
    have hcut : graphemes ms.flatten = ms := (Segmentation.clusters_cut hms.symm).2
    rw [hmid] at hcut
    rw [h'.2, ← hms, hcut]
  · have hflat := congrArg List.flatten hms
    rw [List.flatten_append, flatten_graphemes, flatten_graphemes, List.append_assoc] at hflat
    obtain ⟨rfl, -⟩ : mid = [] ∧ ms.flatten = [] := by simpa using hflat
    rw [h.2]
    simp [graphemes, Segmentation.clusters]

theorem Boundary.cut (h : Boundary text (Utf8.len before)) (htext : text = before ++ after) :
    Cut text before after := by
  obtain ⟨before', after', hcut, hlen⟩ := boundary_iff_cut.mp h
  obtain ⟨rfl, rfl⟩ := Utf8.split_unique (htext.symm.trans hcut.1) hlen
  exact hcut

end runs

/-- The cursor is always right exactly when no grapheme opens a row before the last one is full and
no newline follows a full row. -/
theorem cursorShown_iff (hW : 0 < W) (hcr : '\r' ∉ text) (hfit : FitsIn W text) :
    CursorShown W text ↔
      (∀ before after, Cut text before after → ¬ EarlyBreak W before after) ∧
        NoFullLine W text := by
  have hcursor : ∀ (b : InputBuffer) (before after : List Char), b.text = text →
      Cut text before after → b.cursor = Utf8.len before →
        inputCursor b W = some (endCell W before) := by
    rintro ⟨_, _, maxBytes, multiline⟩ before after rfl hcut rfl
    exact inputCursor_eq hcr hfit hcut maxBytes multiline
  constructor
  · intro h
    refine ⟨fun before after hcut => ?_, fun before after htext => ?_⟩
    · have hboundary : Boundary text (Utf8.len before) :=
        boundary_iff_cut.mpr ⟨before, after, hcut, rfl⟩
      obtain ⟨cell, hcell, hshown, -⟩ :=
        h { text, cursor := Utf8.len before, maxBytes := 0, multiline := true } rfl hboundary
      rw [hcursor _ before after rfl hcut rfl] at hcell
      obtain rfl := Option.some.inj hcell
      exact (shownRight_iff hW hcr hcut).mp (hshown before after hcut rfl)
    · by_contra hfull
      have hcrBefore : '\r' ∉ before := fun hc => hcr (htext ▸ List.mem_append_left _ hc)
      have hparts := graphemes_newline after hcrBefore
      have hline : graphemes (before ++ ['\n']) = graphemes before ++ [['\n']] :=
        graphemes_newline [] hcrBefore
      have hcrLine : '\r' ∉ before ++ ['\n'] := by
        rw [List.mem_append]
        rintro (hc | hc)
        · exact hcrBefore hc
        · exact absurd (List.mem_singleton.mp hc) (by decide)
      have hcut : Cut text before ('\n' :: after) := by
        refine ⟨htext, ?_⟩
        have hnewline : graphemes ('\n' :: after) = ['\n'] :: graphemes after :=
          graphemes_newline after (List.not_mem_nil : '\r' ∉ ([] : List Char))
        rw [htext, hparts, hnewline]
      have hcut' : Cut text (before ++ ['\n']) after := by
        refine ⟨by rw [htext]; simp, ?_⟩
        rw [htext, hparts, hline]
        simp
      obtain ⟨cell, hcell, -, hother⟩ :=
        h { text, cursor := Utf8.len before, maxBytes := 0, multiline := true } rfl
          (boundary_iff_cut.mpr ⟨_, _, hcut, rfl⟩)
      rw [hcursor _ before _ rfl hcut rfl] at hcell
      obtain rfl := Option.some.inj hcell
      apply hother
        { text, cursor := Utf8.len (before ++ ['\n']), maxBytes := 0, multiline := true }
        before ['\n'] after rfl (boundary_iff_cut.mpr ⟨_, _, hcut', rfl⟩) (by rw [htext]; simp) rfl
        rfl
      · exact ⟨['\n'], List.mem_cons_self, .inl rfl⟩
      · rw [hcursor _ (before ++ ['\n']) after rfl hcut' rfl, endCell_newline hW (by omega)]
  · rintro ⟨hearly, hroom⟩ b hb hboundary
    obtain ⟨before, after, hcut, hlen⟩ := boundary_iff_cut.mp hboundary
    refine ⟨endCell W before, hcursor b before after hb hcut hlen, ?_, ?_⟩
    · intro before' after' hcut' hlen'
      obtain ⟨rfl, rfl⟩ := Utf8.split_unique (hcut.1.symm.trans hcut'.1) (hlen.symm.trans hlen')
      exact (shownRight_iff hW hcr hcut).mpr (hearly before after hcut)
    · intro b' before' mid after' hb' hboundary' htext hlen' hlen'' hvisible
      have hfirst : Cut text before' (mid ++ after') :=
        Boundary.cut (hlen' ▸ hboundary) (by rw [htext, List.append_assoc])
      have hsecond : Cut text (before' ++ mid) after' := Boundary.cut (hlen'' ▸ hboundary') htext
      obtain ⟨rfl, rfl⟩ := Utf8.split_unique (hcut.1.symm.trans hfirst.1) (hlen.symm.trans hlen')
      rw [hcursor b' _ after' hb' hsecond hlen'']
      intro hsame
      exact endCell_ne hcr hfit hroom htext (hfirst.between hsecond) hvisible
        (Option.some.inj hsame).symm

end

namespace Console.Sample

open scoped Graphemes.Sample

/-- Ideographs take two cells and combining marks none. -/
scoped instance cellWidth : CellWidth where
  cells text := (text.map fun c =>
    if 0x4e00 ≤ c.toNat ∧ c.toNat < 0xa000 then 2
    else if 0x300 ≤ c.toNat ∧ c.toNat < 0x370 then 0 else 1).sum
  ellipsis := by decide

def wide : List Char := ['a', 'b', 'c', '漢']

def full : List Char := ['a', 'b', 'c', 'd', '\n']

/-- Before a wide character that does not fit the cursor stays in the row that the character has
left, and at the end of a full row it stands where the next line starts. -/
theorem cursor_misplaced : (FitsIn 4 wide ∧ ¬ CursorShown 4 wide) ∧
    FitsIn 4 full ∧ ¬ CursorShown 4 full := by
  have hwide : FitsIn 4 wide := by
    unfold FitsIn
    decide +kernel
  have hfull : FitsIn 4 full := by
    unfold FitsIn
    decide +kernel
  refine ⟨⟨hwide, fun h => ?_⟩, hfull, fun h => ?_⟩
  · have hcut : Cut wide ['a', 'b', 'c'] ['漢'] := ⟨rfl, rfl⟩
    obtain ⟨cell, hcell, hshown, -⟩ :=
      h { text := wide, cursor := 3, maxBytes := 64, multiline := true } rfl
        (boundary_iff_cut.mpr ⟨_, _, hcut, rfl⟩)
    obtain rfl : (0, 3) = cell := Option.some.inj hcell
    have hright := (shownRight_iff (by decide) (by decide) hcut).mp (hshown _ _ hcut rfl)
    exact hright ⟨['漢'], ⟨['漢'], [], [], rfl, by decide, rfl, by decide⟩, by decide, by decide,
      by decide⟩
  · have hcut : Cut full ['a', 'b', 'c', 'd'] ['\n'] := ⟨rfl, rfl⟩
    have hcut' : Cut full full [] := ⟨rfl, rfl⟩
    obtain ⟨cell, hcell, -, hother⟩ :=
      h { text := full, cursor := 4, maxBytes := 64, multiline := true } rfl
        (boundary_iff_cut.mpr ⟨_, _, hcut, rfl⟩)
    obtain rfl : (1, 0) = cell := Option.some.inj hcell
    exact hother { text := full, cursor := 5, maxBytes := 64, multiline := true }
      ['a', 'b', 'c', 'd'] ['\n'] [] rfl (boundary_iff_cut.mpr ⟨_, _, hcut', rfl⟩) rfl rfl rfl
      ⟨['\n'], List.mem_cons_self, .inl rfl⟩ rfl

theorem cursorShown_iff_wide : CursorShown 4 wide ↔
    (∀ before after, Cut wide before after → ¬ EarlyBreak 4 before after) ∧ NoFullLine 4 wide :=
  cursorShown_iff (by decide) (by decide) (by unfold FitsIn; decide +kernel)

end Console.Sample

end SessionRouter
