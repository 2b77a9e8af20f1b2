import SessionRouter.Console.Input

/-!
The cursor of an input line stays on a boundary between the clusters of the whole text, although
the operations segment parts of it.
-/

namespace SessionRouter

variable [G : Graphemes] {text before after line : List Char} {gs hs : List (List Char)} {n k : ℕ}

/-- The offset lies between two clusters of the text, or at an end of it. -/
def Boundary (text : List Char) (n : ℕ) : Prop :=
  ∃ gs hs, graphemes text = gs ++ hs ∧ n = Utf8.len gs.flatten

theorem flatten_graphemes (text : List Char) : (graphemes text).flatten = text :=
  Segmentation.flatten_clusters text

theorem boundary_zero (text : List Char) : Boundary text 0 := ⟨[], graphemes text, rfl, rfl⟩

theorem boundary_len (text : List Char) : Boundary text (Utf8.len text) :=
  ⟨graphemes text, [], (List.append_nil _).symm, by rw [flatten_graphemes]⟩

/-- The text is cut at a boundary as its two parts are. -/
theorem Boundary.split (h : Boundary text n) : ∃ before after, text = before ++ after ∧
    n = Utf8.len before ∧ graphemes text = graphemes before ++ graphemes after := by
  obtain ⟨gs, hs, hcut, rfl⟩ := h
  obtain ⟨hgs, hhs⟩ := Segmentation.clusters_cut hcut
  refine ⟨gs.flatten, hs.flatten, ?_, rfl, ?_⟩
  · rw [← List.flatten_append, ← hcut, flatten_graphemes]
  · rw [hcut]
    exact (congrArg₂ (· ++ ·) hgs hhs).symm

theorem boundary_of_split (h : graphemes (before ++ after) = graphemes before ++ graphemes after) :
    Boundary (before ++ after) (Utf8.len before) :=
  ⟨graphemes before, graphemes after, h, by rw [flatten_graphemes]⟩

theorem Boundary.le_len (h : Boundary text n) : n ≤ Utf8.len text := by
  obtain ⟨before, after, rfl, rfl, -⟩ := h.split
  rw [Utf8.len_append]
  omega

/-- A boundary of a part that is cut as in the whole is a boundary of the whole. -/
theorem Boundary.within (before after : List Char) (h : Boundary line n)
    (hcut : graphemes (before ++ line ++ after) =
      graphemes before ++ graphemes line ++ graphemes after) :
    Boundary (before ++ line ++ after) (Utf8.len before + n) := by
  obtain ⟨gs, hs, hline, rfl⟩ := h
  refine ⟨graphemes before ++ gs, hs ++ graphemes after, ?_, ?_⟩
  · rw [hcut, hline]
    simp
  · rw [List.flatten_append, flatten_graphemes, Utf8.len_append]

/-- A newline stands on its own in a text without carriage returns. -/
theorem graphemes_newline (after : List Char) (h : '\r' ∉ before) :
    graphemes (before ++ '\n' :: after) = graphemes before ++ ['\n'] :: graphemes after := by
  apply Segmentation.clusters_around
  · intro g hg
    exact Graphemes.joins_newline g fun hc => h (Segmentation.mem_of_mem_cluster hg hc)
  · exact Graphemes.newline_joins

/-- A line is cut as it is within the text. -/
theorem graphemes_line (h : '\r' ∉ before)
    (hstart : before = [] ∨ ∃ above, before = above ++ ['\n'])
    (hstop : after = [] ∨ ∃ below, after = '\n' :: below) (hline : '\r' ∉ line) :
    graphemes (before ++ line ++ after) =
      graphemes before ++ graphemes line ++ graphemes after := by
  have htail : graphemes (line ++ after) = graphemes line ++ graphemes after := by
    rcases hstop with rfl | ⟨below, rfl⟩
    · simp [graphemes, Segmentation.clusters]
    · rw [graphemes_newline below hline]
      exact congrArg _ (graphemes_newline below List.not_mem_nil).symm
  rw [List.append_assoc, List.append_assoc, ← htail]
  rcases hstart with rfl | ⟨above, rfl⟩
  · rfl
  · have habove : '\r' ∉ above := fun hc => h (List.mem_append_left _ hc)
    have hsingle := graphemes_newline [] habove
    have hwhole := graphemes_newline (line ++ after) habove
    rw [List.append_assoc, List.singleton_append, hwhole, hsingle]
    simp [graphemes, Segmentation.clusters]

section indices

omit G

theorem indicesFrom_getElem? {offset i : ℕ} {piece : ℕ × List Char}
    (h : (indicesFrom offset gs)[i]? = some piece) :
    ∃ ps qs, gs = ps ++ qs ∧ piece.1 = offset + Utf8.len ps.flatten := by
  induction gs generalizing offset i with
  | nil => simp [indicesFrom] at h
  | cons g gs ih =>
    cases i with
    | zero =>
      obtain rfl := Option.some.inj h
      exact ⟨[], g :: gs, rfl, rfl⟩
    | succ i =>
      obtain ⟨ps, qs, rfl, hoffset⟩ := ih (i := i) h
      exact ⟨g :: ps, qs, rfl, by simp [hoffset, Nat.add_assoc]⟩

end indices

theorem boundary_of_index {i : ℕ} {piece : ℕ × List Char}
    (h : (graphemeIndices text)[i]? = some piece) : Boundary text piece.1 := by
  obtain ⟨ps, qs, hcut, hoffset⟩ := indicesFrom_getElem? h
  exact ⟨ps, qs, hcut, by rw [hoffset, Nat.zero_add]⟩

/-- The last cluster of a text starts on a boundary. -/
theorem boundary_of_last (text : List Char) :
    Boundary text ((graphemeIndices text).getLast?.elim 0 Prod.fst) := by
  cases hlast : (graphemeIndices text).getLast? with
  | none => exact boundary_zero text
  | some piece =>
    rw [List.getLast?_eq_getElem?] at hlast
    exact boundary_of_index hlast

/-- A boundary of a text up to a boundary is one of the whole. -/
theorem Boundary.of_before (h : Boundary before n)
    (hcut : graphemes (before ++ after) = graphemes before ++ graphemes after) :
    Boundary (before ++ after) n := by
  have hwithin := h.within [] after (by simpa [graphemes, Segmentation.clusters] using hcut)
  simpa using hwithin

/-- A whole line of the text, without its newline, lies between these offsets. -/
def LineRange (text : List Char) (first last : ℕ) : Prop :=
  ∃ above line below, text = above ++ line ++ below ∧ first = Utf8.len above ∧
    last = Utf8.len above + Utf8.len line ∧
    (above = [] ∨ ∃ start, above = start ++ ['\n']) ∧
    (below = [] ∨ ∃ rest, below = '\n' :: rest)

/-- A boundary of a line is one of the text. -/
theorem Boundary.of_line (h : Boundary line n) (hcr : '\r' ∉ before ++ line ++ after)
    (hstart : before = [] ∨ ∃ above, before = above ++ ['\n'])
    (hstop : after = [] ∨ ∃ below, after = '\n' :: below) :
    Boundary (before ++ line ++ after) (Utf8.len before + n) := by
  simp only [List.mem_append, not_or] at hcr
  exact h.within before after (graphemes_line hcr.1.1 hstart hstop hcr.1.2)

omit G in
theorem lineStart_split (before : List Char) : ∃ above line, before = above ++ line ∧
    InputBuffer.lineStart before = Utf8.len above ∧
    (above = [] ∨ ∃ start, above = start ++ ['\n']) := by
  unfold InputBuffer.lineStart
  cases hfind : Utf8.rfind '\n' before with
  | none => exact ⟨[], before, rfl, rfl, .inl rfl⟩
  | some n =>
    obtain ⟨start, line, rfl, -, rfl⟩ := Utf8.rfind_eq_some hfind
    refine ⟨start ++ ['\n'], line, by simp, ?_, .inr ⟨start, rfl⟩⟩
    rw [Utf8.len_append]
    rfl

namespace InputBuffer

variable {b : InputBuffer}

structure Sound (b : InputBuffer) : Prop where
  boundary : Boundary b.text b.cursor
  noCr : '\r' ∉ b.text
  bounded : Utf8.len b.text ≤ b.maxBytes
  singleLine : b.multiline = false → '\n' ∉ b.text

/-- What an operation keeps of a buffer besides its soundness. -/
structure Kept (b b' : InputBuffer) : Prop where
  sound : b'.Sound
  maxBytes : b'.maxBytes = b.maxBytes
  multiline : b'.multiline = b.multiline

theorem normalizeCursorForward_boundary (b : InputBuffer) :
    Boundary b.text b.normalizeCursorForward.cursor := by
  show Boundary b.text (Option.getD _ _)
  cases hfind : ((graphemeIndices b.text).map Prod.fst).find? fun offset => b.cursor ≤ offset with
  | none => exact boundary_len b.text
  | some offset =>
    obtain ⟨i, hi⟩ := List.mem_iff_getElem?.mp (List.mem_of_find?_eq_some hfind)
    rw [List.getElem?_map] at hi
    obtain ⟨piece, hpiece, rfl⟩ := Option.map_eq_some_iff.mp hi
    exact boundary_of_index hpiece

/-- The cursor moves to a boundary of the same text. -/
theorem Sound.moved (h : b.Sound) (hn : Boundary b.text n) : Kept b { b with cursor := n } :=
  ⟨⟨hn, h.noCr, h.bounded, h.singleLine⟩, rfl, rfl⟩

/-- Text is taken away and the cursor put on a boundary of what is left. -/
theorem Sound.shrunk (h : b.Sound) (text : List Char) (cursor : ℕ) (hsub : text.Sublist b.text)
    (hlen : Utf8.len text ≤ Utf8.len b.text) :
    Kept b (normalizeCursorForward { b with text, cursor }) := by
  have hboundary := normalizeCursorForward_boundary { b with text, cursor }
  refine ⟨⟨hboundary, ?_, ?_, ?_⟩, rfl, rfl⟩
  · exact fun hc => h.noCr (hsub.subset hc)
  · exact hlen.trans h.bounded
  · exact fun hsingle hc => h.singleLine hsingle (hsub.subset hc)

theorem Sound.split (h : b.Sound) : ∃ before after, b.text = before ++ after ∧
    b.cursor = Utf8.len before ∧ graphemes b.text = graphemes before ++ graphemes after ∧
    Utf8.splitAt b.text b.cursor = some (before, after) := by
  obtain ⟨before, after, htext, hcursor, hcut⟩ := h.boundary.split
  refine ⟨before, after, htext, hcursor, hcut, ?_⟩
  rw [htext, hcursor, Utf8.splitAt_len]

theorem left_eq (hsplit : Utf8.splitAt b.text b.cursor = some (before, after)) :
    b.left = some { b with cursor := (graphemeIndices before).getLast?.elim 0 Prod.fst } := by
  rw [left, hsplit]
  rfl

theorem left_kept (h : b.Sound) : ∃ b', b.left = some b' ∧ Kept b b' := by
  obtain ⟨before, after, htext, hcursor, hcut, hsplit⟩ := h.split
  refine ⟨_, left_eq hsplit, h.moved ?_⟩
  rw [htext]
  exact (boundary_of_last before).of_before (htext ▸ hcut)

theorem right_kept (h : b.Sound) : ∃ b', b.right = some b' ∧ Kept b b' := by
  obtain ⟨before, after, htext, hcursor, hcut, hsplit⟩ := h.split
  unfold right
  rw [hsplit, Option.map_some]
  refine ⟨_, rfl, ?_⟩
  cases hafter : graphemes after with
  | nil =>
    simp only [hafter, List.head?_nil]
    exact ⟨h, rfl, rfl⟩
  | cons g rest =>
    simp only [hafter, List.head?_cons]
    refine h.moved ⟨graphemes before ++ [g], rest, ?_, ?_⟩
    · rw [hcut, hafter]
      simp
    · rw [List.flatten_append, flatten_graphemes, Utf8.len_append, hcursor]
      simp

omit G in
theorem removeRange_len (before gone after : List Char) :
    removeRange (before ++ gone ++ after) (Utf8.len before)
      (Utf8.len before + Utf8.len gone) = some (before ++ after) := by
  unfold removeRange
  rw [← Utf8.len_append, Utf8.splitAt_len]
  show (Utf8.splitAt (before ++ gone) (Utf8.len before)).map _ = _
  rw [Utf8.splitAt_len]
  rfl

/-- The part between two boundaries is removed. -/
theorem Sound.removed (h : b.Sound) {before gone after : List Char}
    (htext : b.text = before ++ gone ++ after) (cursor : ℕ) :
    Kept b (normalizeCursorForward { b with text := before ++ after, cursor }) := by
  apply h.shrunk
  · rw [htext, List.append_assoc]
    exact List.Sublist.append_left (List.sublist_append_right _ _) _
  · rw [htext]
    simp only [Utf8.len_append]
    omega

theorem backspace_kept (h : b.Sound) : ∃ b', b.backspace = some b' ∧ Kept b b' := by
  obtain ⟨before, after, htext, hcursor, -, hsplit⟩ := h.split
  obtain ⟨kept, gone, hparts, hstart, -⟩ := (boundary_of_last before).split
  have hwhole : b.text = kept ++ gone ++ after := by rw [htext, hparts]
  have hremove : removeRange b.text (Utf8.len kept) b.cursor = some (kept ++ after) := by
    rw [hwhole, hcursor, hparts, Utf8.len_append, removeRange_len]
  refine ⟨_, ?_, h.removed hwhole (Utf8.len kept)⟩
  unfold backspace
  rw [left_eq hsplit, hstart]
  simp only [Option.bind_eq_bind, Option.bind_some, hremove]
  rfl

theorem delete_kept (h : b.Sound) : ∃ b', b.delete = some b' ∧ Kept b b' := by
  obtain ⟨before, after, htext, hcursor, hcut, hsplit⟩ := h.split
  unfold delete
  rw [hsplit]
  cases hafter : graphemes after with
  | nil => exact ⟨b, by simp [hafter], h, rfl, rfl⟩
  | cons g rest =>
    have hgone : after = g ++ rest.flatten := by
      rw [← flatten_graphemes after, hafter]
      rfl
    have hwhole : b.text = before ++ g ++ rest.flatten := by rw [htext, hgone, List.append_assoc]
    have hremove : removeRange b.text b.cursor (b.cursor + Utf8.len g) =
        some (before ++ rest.flatten) := by
      rw [hwhole, hcursor, removeRange_len]
    refine ⟨_, ?_, h.removed hwhole b.cursor⟩
    simp only [Option.bind_some, hafter, List.head?_cons, hremove]
    rfl

theorem home_kept (h : b.Sound) : ∃ b', b.home = some b' ∧ Kept b b' := by
  obtain ⟨before, after, htext, -, -, hsplit⟩ := h.split
  obtain ⟨above, line, hline, hstart, habove⟩ := lineStart_split before
  refine ⟨{ b with cursor := lineStart before }, by rw [home, hsplit]; rfl, h.moved ?_⟩
  have hwhole : b.text = above ++ (line ++ after) ++ [] := by rw [htext, hline]; simp
  have hcr := h.noCr
  rw [hwhole] at hcr ⊢
  rw [hstart]
  exact (boundary_zero (line ++ after)).of_line hcr habove (.inl rfl)

theorem end_kept (h : b.Sound) : ∃ b', b.end = some b' ∧ Kept b b' := by
  obtain ⟨before, after, htext, hcursor, -, hsplit⟩ := h.split
  refine ⟨_, by rw [InputBuffer.end, hsplit]; rfl, h.moved ?_⟩
  cases hfind : Utf8.find '\n' after with
  | none =>
    have hlen : b.cursor + (Utf8.len b.text - b.cursor) = Utf8.len b.text := by
      have hle := h.boundary.le_len
      omega
    show Boundary b.text (b.cursor + (Utf8.len b.text - b.cursor))
    rw [hlen]
    exact boundary_len b.text
  | some n =>
    obtain ⟨line, below, rfl, -, rfl⟩ := Utf8.find_eq_some hfind
    have hwhole : b.text = [] ++ (before ++ line) ++ '\n' :: below := by rw [htext]; simp
    have hcr := h.noCr
    have hend := boundary_len (before ++ line)
    rw [hwhole] at hcr
    have hfinal := hend.of_line hcr (.inl rfl) (.inr ⟨below, rfl⟩)
    rw [← hwhole, Utf8.len_nil, Nat.zero_add, Utf8.len_append, ← hcursor] at hfinal
    exact hfinal

omit G in
theorem rangeBelow_line (htext : b.text = before ++ after) (hcursor : b.cursor = Utf8.len before) :
    ∃ range, b.rangeBelow after = some range ∧
      ∀ first last, range = some (first, last) → LineRange b.text first last := by
  unfold rangeBelow
  cases hfind : Utf8.find '\n' after with
  | none => exact ⟨none, rfl, by simp⟩
  | some n =>
    obtain ⟨line, rest, rfl, -, rfl⟩ := Utf8.find_eq_some hfind
    have hwhole : b.text = before ++ line ++ ['\n'] ++ rest := by rw [htext]; simp
    have hstart : b.cursor + Utf8.len line + 1 = Utf8.len (before ++ line ++ ['\n']) := by
      rw [hcursor, Utf8.len_append, Utf8.len_append]
      rfl
    dsimp only
    rw [hstart, hwhole, Utf8.splitAt_len, Option.map_some]
    refine ⟨_, rfl, ?_⟩
    rintro first last ⟨⟩
    cases hnext : Utf8.find '\n' rest with
    | none =>
      exact ⟨before ++ line ++ ['\n'], rest, [], by simp, rfl, Utf8.len_append _ _,
        .inr ⟨_, rfl⟩, .inl rfl⟩
    | some m =>
      obtain ⟨next, below, rfl, -, rfl⟩ := Utf8.find_eq_some hnext
      exact ⟨before ++ line ++ ['\n'], next, '\n' :: below, by simp, rfl, rfl,
        .inr ⟨_, rfl⟩, .inr ⟨below, rfl⟩⟩

omit G in
theorem rangeAbove_line (htext : b.text = before ++ after) :
    ∃ range, b.rangeAbove (lineStart before) = some range ∧
      ∀ first last, range = some (first, last) → LineRange b.text first last := by
  unfold rangeAbove
  obtain ⟨above, line, rfl, hstart, habove⟩ := lineStart_split before
  rw [hstart]
  rcases habove with rfl | ⟨start, rfl⟩
  · exact ⟨none, rfl, by simp⟩
  · have hprevious : Utf8.len (start ++ ['\n']) - 1 = Utf8.len start := by
      rw [Utf8.len_append]
      rfl
    have hwhole : b.text = start ++ ('\n' :: line ++ after) := by rw [htext]; simp
    have hpos : Utf8.len (start ++ ['\n']) ≠ 0 := by
      rw [Utf8.len_append]
      exact Nat.succ_ne_zero _
    rw [if_neg hpos, hprevious, hwhole]
    dsimp only
    rw [Utf8.splitAt_len, Option.map_some]
    refine ⟨_, rfl, ?_⟩
    rintro first last ⟨⟩
    obtain ⟨above, previous, rfl, hfirst, habove⟩ := lineStart_split start
    exact ⟨above, previous, '\n' :: line ++ after, rfl, hfirst, Utf8.len_append _ _, habove,
      .inr ⟨line ++ after, rfl⟩⟩

/-- The cursor goes to a cluster of another line, or to its end. -/
theorem Sound.toColumn (h : b.Sound) {first last : ℕ} (hrange : LineRange b.text first last)
    (column : ℕ) : ∃ line, Utf8.slice b.text first last = some line ∧
      Kept b { b with cursor := (graphemeIndices line)[column]?.elim last (first + ·.1) } := by
  obtain ⟨above, line, below, htext, rfl, rfl, habove, hbelow⟩ := hrange
  have hcr := h.noCr
  rw [htext] at hcr
  refine ⟨line, by rw [htext, Utf8.slice_len], h.moved ?_⟩
  rw [htext]
  cases hindex : (graphemeIndices line)[column]? with
  | none => exact (boundary_len line).of_line hcr habove hbelow
  | some piece => exact (boundary_of_index hindex).of_line hcr habove hbelow

theorem vertical_kept (h : b.Sound) (down : Bool) :
    ∃ b', b.vertical down = some b' ∧ Kept b b' := by
  obtain ⟨before, after, htext, hcursor, -, hsplit⟩ := h.split
  obtain ⟨above, line, hline, hstart, -⟩ := lineStart_split before
  have hslice : Utf8.slice b.text (lineStart before) b.cursor = some line := by
    rw [htext, hcursor, hstart, hline, Utf8.len_append, Utf8.slice_len]
  obtain ⟨range, hrange, hlines⟩ : ∃ range,
      b.targetRange down (lineStart before) after = some range ∧
        ∀ first last, range = some (first, last) → LineRange b.text first last := by
    cases down with
    | true => exact rangeBelow_line htext hcursor
    | false => exact rangeAbove_line htext
  unfold vertical
  simp only [Option.bind_eq_bind, hsplit, Option.bind_some, hslice, hrange]
  cases range with
  | none => exact ⟨b, rfl, h, rfl, rfl⟩
  | some range =>
    obtain ⟨other, hother, hkept⟩ := h.toColumn (hlines range.1 range.2 rfl) _
    simp only [hother, Option.bind_some]
    exact ⟨_, rfl, hkept⟩

omit G in
theorem noCr_replaced (text : List Char) :
    '\r' ∉ if '\r' ∈ text then replaceCr (replaceCrLf text) else text := by
  split
  · intro hmem
    obtain ⟨c, -, hc⟩ := List.mem_map.mp hmem
    split at hc
    · cases hc
    · next hne => exact hne hc
  · assumption

/-- An insertion succeeds on a sound buffer, or fails and leaves the buffer as it was. -/
theorem insert_kept (h : b.Sound) (text : List Char) :
    ∃ r b', b.insert text = some (r, b') ∧ Kept b b' ∧ ∀ e, r = .error e → b' = b := by
  have hfailed : ∀ e : StateError, ∃ r b',
      some ((.error e : Except StateError Unit), b) = some (r, b') ∧ Kept b b' ∧
        ∀ e', r = .error e' → b' = b :=
    fun e => ⟨_, _, rfl, ⟨h, rfl, rfl⟩, fun _ _ => rfl⟩
  unfold insert
  split
  · exact hfailed _
  · dsimp only
    have hcr := noCr_replaced text
    generalize (if '\r' ∈ text then replaceCr (replaceCrLf text) else text) = text at hcr ⊢
    split
    · exact hfailed _
    · next hlines =>
      split
      · exact hfailed _
      · next hfits =>
        obtain ⟨before, after, htext, hcursor, -, hsplit⟩ := h.split
        rw [hsplit, Option.map_some]
        have hboundary := normalizeCursorForward_boundary { b with
          text := before ++ text ++ after
          cursor := b.cursor + Utf8.len text }
        refine ⟨_, _, rfl, ⟨⟨hboundary, ?_, ?_, ?_⟩, rfl, rfl⟩, by simp⟩
        · have hold := h.noCr
          rw [htext] at hold
          show '\r' ∉ before ++ text ++ after
          simp only [List.mem_append, not_or] at hold ⊢
          exact ⟨⟨hold.1, hcr⟩, hold.2⟩
        · show Utf8.len (before ++ text ++ after) ≤ b.maxBytes
          have hold : Utf8.len b.text = Utf8.len before + Utf8.len after := by
            rw [htext, Utf8.len_append]
          simp only [Utf8.len_append]
          omega
        · intro hsingle
          have hold := h.singleLine hsingle
          replace hsingle : b.multiline = false := hsingle
          rw [htext] at hold
          show '\n' ∉ before ++ text ++ after
          simp only [hsingle, Bool.not_false, Bool.true_and, List.contains_eq_mem,
            decide_eq_true_eq] at hlines
          simp only [List.mem_append, not_or] at hold ⊢
          exact ⟨⟨hold.1, hlines⟩, hold.2⟩

theorem clear_kept (b : InputBuffer) : Kept b b.clear :=
  ⟨⟨boundary_zero [], List.not_mem_nil, by simp [clear], fun _ => List.not_mem_nil⟩, rfl, rfl⟩

theorem edit_kept (h : b.Sound) (e : Edit) : ∃ r b', b.edit e = some (r, b') ∧ Kept b b' := by
  have hplain : ∀ {op : Option InputBuffer}, (∃ b', op = some b' ∧ Kept b b') →
      ∃ r b', op.map ((.ok () : Except StateError Unit), ·) = some (r, b') ∧ Kept b b' := by
    rintro op ⟨b', rfl, hkept⟩
    exact ⟨_, b', rfl, hkept⟩
  cases e with
  | insert text =>
    obtain ⟨r, b', hinsert, hkept, -⟩ := insert_kept h text
    exact ⟨r, b', hinsert, hkept⟩
  | left => exact hplain (left_kept h)
  | right => exact hplain (right_kept h)
  | backspace => exact hplain (backspace_kept h)
  | delete => exact hplain (delete_kept h)
  | home => exact hplain (home_kept h)
  | «end» => exact hplain (end_kept h)
  | clear => exact ⟨_, _, rfl, clear_kept b⟩
  | vertical down => exact hplain (vertical_kept h down)

theorem new_sound (maxBytes : ℕ) (multiline : Bool) : (new maxBytes multiline).Sound :=
  ⟨boundary_zero [], List.not_mem_nil, Nat.zero_le _, fun _ => List.not_mem_nil⟩

theorem edits_kept (h : b.Sound) (list : List Edit) :
    ∃ b', b.edits list = some b' ∧ Kept b b' := by
  induction list generalizing b with
  | nil => exact ⟨b, rfl, h, rfl, rfl⟩
  | cons e rest ih =>
    obtain ⟨r, b₁, hedit, hkept₁⟩ := edit_kept h e
    obtain ⟨b₂, hrest, hkept₂⟩ := ih hkept₁.sound
    refine ⟨b₂, by rw [edits, hedit]; exact hrest, hkept₂.sound, ?_, ?_⟩
    · exact hkept₂.maxBytes.trans hkept₁.maxBytes
    · exact hkept₂.multiline.trans hkept₁.multiline

/-- Whatever is done to an input line, no slice is taken inside a character, the cursor is on a
boundary of the text, the text has no carriage return, no more bytes than allowed and no newline in
a single line, and an insertion that fails changes nothing. -/
theorem input_line_sound (maxBytes : ℕ) (multiline : Bool) (list : List Edit) :
    ∃ b, (new maxBytes multiline).edits list = some b ∧
      Boundary b.text b.cursor ∧ b.cursor ≤ Utf8.len b.text ∧ '\r' ∉ b.text ∧
      Utf8.len b.text ≤ maxBytes ∧ (multiline = false → '\n' ∉ b.text) ∧
      (∀ e, ∃ r b', b.edit e = some (r, b')) ∧
      ∀ text e b', b.insert text = some (.error e, b') → b' = b := by
  obtain ⟨b, hedits, hsound, hmax, hmulti⟩ := edits_kept (new_sound maxBytes multiline) list
  replace hmax : b.maxBytes = maxBytes := hmax
  replace hmulti : b.multiline = multiline := hmulti
  refine ⟨b, hedits, hsound.boundary, hsound.boundary.le_len, hsound.noCr, ?_, ?_, ?_, ?_⟩
  · exact hmax ▸ hsound.bounded
  · exact hmulti ▸ hsound.singleLine
  · intro e
    obtain ⟨r, b', hedit, -⟩ := edit_kept hsound e
    exact ⟨r, b', hedit⟩
  · intro text e b' hinsert
    obtain ⟨r, b'', hagain, -, hfailed⟩ := insert_kept hsound text
    rw [hinsert] at hagain
    cases hagain
    exact hfailed e rfl

end InputBuffer

end SessionRouter
