import Mathlib.Data.List.Basic
import Mathlib.Tactic.SplitIfs

/-!
How a shell reads a text: words with their quoting, operators, line ends and quoted
here-documents. Texts may have holes; filling the holes of a text with quoted words fills the words
that are read.
-/

/-- A character of a text, or a hole in it: one for a quoted word, or one for the start of a line of
a here-document. -/
inductive ShellSymbol (H : Type) where
  | char (c : Char)
  | word (h : H)
  | line (h : H)
  deriving DecidableEq

/-- What a word is made of: characters the shell still interprets, the ones it interprets between
double quotation marks, the ones it takes literally, and holes. -/
inductive Piece (H : Type) where
  | plain (c : Char)
  | double (c : Char)
  | literal (c : Char)
  | hole (h : H)
  deriving DecidableEq

inductive Token (H : Type) where
  | word (pieces : List (Piece H))
  | operator (c : Char)
  | newline
  | document (lines : List (List (ShellSymbol H)))
  deriving DecidableEq

namespace ShellText

variable {H : Type}

def isNameChar (c : Char) : Bool := c.isAlphanum || c = '_'

/-- The line that ends a here-document. -/
structure Delimiter where
  chars : List Char
  name : chars.all isNameChar = true
  deriving DecidableEq

inductive Mode (H : Type) where
  | bare
  | escaped
  | single
  | double
  | doubleEscaped
  | comment
  | document (delimiter : Delimiter) (lines : List (List (ShellSymbol H)))
      (line : List (ShellSymbol H))
  deriving DecidableEq

/-- What was read so far, the latest first. -/
structure Reader (H : Type) where
  mode : Mode H
  word : Option (List (Piece H))
  tokens : List (Token H)
  /-- The last character was an operator that a second one makes a here-document of. -/
  less : Bool
  /-- The next word is the delimiter of a here-document. -/
  expects : Bool
  /-- The delimiter of the here-document behind the line. -/
  delimiter : Option Delimiter
  deriving DecidableEq

def Reader.start : Reader H :=
  { mode := .bare, word := none, tokens := [], less := false, expects := false, delimiter := none }

def isOperator (c : Char) : Bool := ['&', '|', ';', '<', '>', '(', ')'].contains c

def isBlank (c : Char) : Bool := c = ' ' || c = '\t'

def literal? : Piece H → Option Char
  | .literal c => some c
  | _ => none

/-- The delimiter that a word stands for, when all of it is quoted. -/
def delimiterOf (pieces : List (Piece H)) : Option Delimiter := do
  let chars ← pieces.mapM literal?
  if h : chars.all isNameChar = true then some ⟨chars, h⟩ else none

/-- The line is these characters. -/
def spells : List (ShellSymbol H) → List Char → Bool
  | [], [] => true
  | .char c :: line, c' :: cs => c = c' && spells line cs
  | _, _ => false

namespace Reader

/-- The end of a word, if there is one. -/
def finish (r : Reader H) : Option (Reader H) :=
  match r.word with
  | none => some r
  | some pieces =>
    let r' := { r with word := none, tokens := .word pieces.reverse :: r.tokens, less := false }
    if r.expects then
      match delimiterOf pieces.reverse, r.delimiter with
      | some d, none => some { r' with expects := false, delimiter := some d }
      | _, _ => none
    else some r'

def push (r : Reader H) (p : Piece H) : Reader H :=
  { r with word := some (p :: r.word.getD []), less := false }

/-- The end of a line; the lines of a here-document follow. -/
def endLine (r : Reader H) : Option (Reader H) := do
  let r ← r.finish
  if r.expects then none
  else
    let r := { r with tokens := .newline :: r.tokens, less := false }
    match r.delimiter with
    | none => some { r with mode := .bare }
    | some d => some { r with mode := .document d [] [], delimiter := none }

def operator (r : Reader H) (c : Char) : Option (Reader H) := do
  let r' ← r.finish
  if r'.expects then none
  else
    some { r' with
      tokens := .operator c :: r'.tokens
      less := c = '<' && !r.less
      expects := c = '<' && r.less }

def bare (r : Reader H) (c : Char) : Option (Reader H) :=
  if c = '\\' then some { r with mode := .escaped }
  else if c = '\'' then
    some { r with mode := .single, word := some (r.word.getD []), less := false }
  else if c = '"' then some { r with mode := .double, word := some (r.word.getD []), less := false }
  else if c = '#' && r.word.isNone then some { r with mode := .comment, less := false }
  else if isBlank c then do
    let r ← r.finish
    some { r with less := false }
  else if c = '\n' then r.endLine
  else if isOperator c then r.operator c
  else some (r.push (.plain c))

/-- The characters that a backslash quotes between double quotation marks. -/
def isDoubleSpecial (c : Char) : Bool := ['$', '\x60', '"', '\\'].contains c

def step (r : Reader H) : ShellSymbol H → Option (Reader H)
  | .char c =>
    match r.mode with
    | .bare => r.bare c
    | .escaped =>
      if c = '\n' then some { r with mode := .bare }
      else some { r.push (.literal c) with mode := .bare }
    | .single => if c = '\'' then some { r with mode := .bare } else some (r.push (.literal c))
    | .double =>
      if c = '"' then some { r with mode := .bare }
      else if c = '\\' then some { r with mode := .doubleEscaped }
      else some (r.push (.double c))
    | .doubleEscaped =>
      if c = '\n' then some { r with mode := .double }
      else if isDoubleSpecial c then some { r.push (.literal c) with mode := .double }
      else some { (r.push (.double '\\')).push (.double c) with mode := .double }
    | .comment => if c = '\n' then { r with mode := .bare }.endLine else some r
    | .document d lines line =>
      if c = '\n' then
        if spells line.reverse d.chars then
          some { r with mode := .bare, tokens := .document lines.reverse :: r.tokens }
        else some { r with mode := .document d (line.reverse :: lines) [] }
      else some { r with mode := .document d lines (.char c :: line) }
  | .word h =>
    match r.mode with
    | .bare => some (r.push (.hole h))
    | _ => none
  | .line h =>
    match r.mode with
    | .document d lines [] => some { r with mode := .document d lines [.line h] }
    | _ => none

end Reader

/-- The tokens of a text, or nothing when a quotation or a here-document does not end, or when the
delimiter of a here-document is not quoted. -/
def read (text : List (ShellSymbol H)) : Option (List (Token H)) := do
  let r ← text.foldlM Reader.step Reader.start
  let r ← r.finish
  match r.mode, r.expects, r.delimiter with
  | .bare, false, none => some r.tokens.reverse
  | _, _, _ => none

namespace Reader

/-- The reader with tokens read before its own. -/
def onto (r : Reader H) (old : List (Token H)) : Reader H := { r with tokens := r.tokens ++ old }

theorem finish_onto (r : Reader H) (old : List (Token H)) :
    (r.onto old).finish = r.finish.map (·.onto old) := by
  obtain ⟨mode, word, tokens, less, expects, delimiter⟩ := r
  unfold finish onto
  cases word with
  | none => rfl
  | some pieces =>
    cases expects with
    | false => rfl
    | true =>
      dsimp only
      rw [if_pos rfl, if_pos rfl]
      cases delimiterOf pieces.reverse with
      | none => rfl
      | some d => cases delimiter <;> rfl

theorem endLine_onto (r : Reader H) (old : List (Token H)) :
    (r.onto old).endLine = r.endLine.map (·.onto old) := by
  unfold endLine
  rw [finish_onto]
  cases r.finish with
  | none => rfl
  | some r =>
    obtain ⟨mode, word, tokens, less, expects, delimiter⟩ := r
    cases expects <;> cases delimiter <;> rfl

theorem operator_onto (r : Reader H) (c : Char) (old : List (Token H)) :
    (r.onto old).operator c = (r.operator c).map (·.onto old) := by
  unfold operator
  rw [finish_onto]
  have hless : (r.onto old).less = r.less := rfl
  rw [hless]
  cases r.finish with
  | none => rfl
  | some r =>
    obtain ⟨mode, word, tokens, less, expects, delimiter⟩ := r
    cases expects <;> rfl

theorem bare_onto (r : Reader H) (c : Char) (old : List (Token H)) :
    (r.onto old).bare c = (r.bare c).map (·.onto old) := by
  have hword : (r.onto old).word = r.word := rfl
  unfold bare
  rw [endLine_onto, operator_onto, finish_onto, hword]
  split_ifs
  · rfl
  · rfl
  · rfl
  · rfl
  · cases r.finish <;> rfl
  · rfl
  · rfl
  · rfl

theorem step_onto (r : Reader H) (s : ShellSymbol H) (old : List (Token H)) :
    (r.onto old).step s = (r.step s).map (·.onto old) := by
  obtain ⟨mode, word, tokens, less, expects, delimiter⟩ := r
  cases s with
  | char c =>
    cases mode with
    | bare => exact bare_onto _ c old
    | escaped => by_cases h : c = '\n' <;> simp only [step, onto, h, if_true, if_false] <;> rfl
    | single => by_cases h : c = '\'' <;> simp only [step, onto, h, if_true, if_false] <;> rfl
    | double =>
      unfold step onto
      dsimp only
      split_ifs <;> rfl
    | doubleEscaped =>
      unfold step onto
      dsimp only
      split_ifs <;> rfl
    | comment =>
      unfold step
      by_cases h : c = '\n'
      · subst h
        exact endLine_onto { mode := .bare, word, tokens, less, expects, delimiter } old
      · simp only [onto, if_neg h]
        rfl
    | document d lines line =>
      unfold step onto
      dsimp only
      split_ifs <;> rfl
  | word h => cases mode <;> rfl
  | line h =>
    cases mode with
    | document d lines line => cases line <;> rfl
    | _ => rfl

/-- What was read before does not change how a text is read. -/
theorem foldlM_onto (text : List (ShellSymbol H)) (r : Reader H) (old : List (Token H)) :
    text.foldlM step (r.onto old) = (text.foldlM step r).map (·.onto old) := by
  induction text generalizing r with
  | nil => rfl
  | cons s text ih =>
    rw [List.foldlM_cons, List.foldlM_cons, step_onto]
    cases r.step s with
    | none => rfl
    | some r => exact ih r

end Reader

/-- The text is read as these tokens, and the reader is where it was. -/
def Whole (text : List (ShellSymbol H)) (tokens : List (Token H)) : Prop :=
  text.foldlM Reader.step Reader.start = some (Reader.start.onto tokens.reverse)

theorem Whole.append {a b : List (ShellSymbol H)} {ts us : List (Token H)} (ha : Whole a ts)
    (hb : Whole b us) : Whole (a ++ b) (ts ++ us) := by
  unfold Whole at ha hb ⊢
  rw [List.foldlM_append, ha, Option.bind_eq_bind, Option.bind_some, Reader.foldlM_onto, hb,
    Option.map_some, List.reverse_append]
  simp only [Reader.onto, Reader.start, List.nil_append]

theorem Whole.read {text : List (ShellSymbol H)} {tokens : List (Token H)}
    (h : Whole text tokens) : read text = some tokens := by
  unfold Whole at h
  rw [ShellText.read, h]
  simp [Reader.onto, Reader.start, Reader.finish]

/-- A text as one word between single quotation marks; its own are moved out of them. -/
def quote (text : List Char) : List Char :=
  '\'' :: text.flatMap (fun c => if c = '\'' then ['\'', '\\', '\'', '\''] else [c]) ++ ['\'']

/-- What the holes of a text are filled with: words, and lines that stay lines and end no
here-document. -/
structure Filling (H : Type) where
  word : H → List Char
  line : H → List Char
  line_whole : ∀ h, '\n' ∉ line h
  line_marked : ∀ h, ∃ c ∈ line h, isNameChar c = false

section

variable (value : Filling H)

def fillSymbol : ShellSymbol H → List (ShellSymbol H)
  | .char c => [.char c]
  | .word h => (quote (value.word h)).map .char
  | .line h => (value.line h).map .char

def fillPiece : Piece H → List (Piece H)
  | .hole h => (value.word h).map .literal
  | p => [p]

def fillToken : Token H → Token H
  | .word pieces => .word (pieces.flatMap (fillPiece value))
  | .operator c => .operator c
  | .newline => .newline
  | .document lines => .document (lines.map fun line => line.flatMap (fillSymbol value))

def fillMode : Mode H → Mode H
  | .document d lines line => .document d (lines.map fun line => line.flatMap (fillSymbol value))
      (line.flatMap fun s => (fillSymbol value s).reverse)
  | mode => mode

namespace Reader

def fill (r : Reader H) : Reader H :=
  { r with
    mode := fillMode value r.mode
    word := r.word.map fun pieces => pieces.flatMap fun p => (fillPiece value p).reverse
    tokens := r.tokens.map (fillToken value) }

end Reader

end

namespace Reader

/-- Pieces at the end of the word. -/
def pushAll (r : Reader H) (pieces : List (Piece H)) : Reader H :=
  { r with word := some (pieces.reverse ++ r.word.getD []), less := false }

theorem pushAll_push (r : Reader H) (p : Piece H) (pieces : List (Piece H)) :
    (r.push p).pushAll pieces = r.pushAll (p :: pieces) := by
  simp [push, pushAll]

theorem single_read (r : Reader H) (text : List Char) :
    ((text.flatMap fun c => if c = '\'' then ['\'', '\\', '\'', '\''] else [c]).map
      ShellSymbol.char).foldlM step
        { r with mode := .single, word := some (r.word.getD []), less := false } =
      some { r.pushAll (text.map .literal) with mode := .single } := by
  induction text generalizing r with
  | nil => rfl
  | cons c text ih =>
    have hnext := ih (r.push (.literal c))
    by_cases hc : c = '\''
    · subst hc
      exact hnext.trans (by rw [pushAll_push]; rfl)
    · have hstep : step { r with mode := .single, word := some (r.word.getD []), less := false }
          (.char c) = some { r.push (.literal c) with mode := .single } := by
        simp only [step, if_neg hc]
        rfl
      rw [List.flatMap_cons, if_neg hc, List.map_append]
      show (step _ (.char c) >>= fun r => _) = _
      rw [hstep]
      exact hnext.trans (by rw [pushAll_push]; rfl)

/-- A quoted text is read as one word, or as the rest of one. -/
theorem quote_read (r : Reader H) (hbare : r.mode = .bare) (text : List Char) :
    ((quote text).map ShellSymbol.char).foldlM step r = some (r.pushAll (text.map .literal)) := by
  have hopen : step r (.char '\'') =
      some { r with mode := .single, word := some (r.word.getD []), less := false } := by
    simp only [step, hbare]
    rfl
  rw [quote, List.map_append, List.foldlM_append, List.map_cons, List.foldlM_cons, hopen]
  show (List.foldlM step _ _ >>= _) = _
  rw [single_read]
  show some _ = some _
  rw [← hbare]
  rfl

end Reader

section

variable {value : Filling H}

theorem reverse_fill {α β : Type} (f : α → List β) (l : List α) :
    (l.flatMap fun a => (f a).reverse).reverse = l.reverse.flatMap f := by
  rw [List.reverse_flatMap]
  simp [Function.comp_def]

/-- A delimiter has no hole. -/
theorem delimiterOf_fill {pieces : List (Piece H)} {d : Delimiter}
    (h : delimiterOf pieces = some d) : pieces.flatMap (fillPiece value) = pieces := by
  have hchars : ∃ cs, pieces.mapM literal? = some cs := by
    unfold delimiterOf at h
    cases hm : pieces.mapM literal? with
    | none =>
      rw [hm] at h
      cases h
    | some cs => exact ⟨cs, rfl⟩
  clear h
  obtain ⟨cs, hcs⟩ := hchars
  induction pieces generalizing cs with
  | nil => rfl
  | cons p pieces ih =>
    rw [List.mapM_cons] at hcs
    cases p with
    | literal c =>
      cases hrest : pieces.mapM literal? with
      | none =>
        rw [hrest] at hcs
        cases hcs
      | some cs => exact congrArg (Piece.literal c :: ·) (ih cs hrest)
    | _ => cases hcs

namespace Reader

variable {r r' : Reader H}

theorem finish_fill (h : r.finish = some r') : (r.fill value).finish = some (r'.fill value) := by
  unfold finish at h ⊢
  cases hword : r.word with
  | none =>
    rw [hword] at h
    cases h
    simp only [fill, hword, Option.map_none]
  | some pieces =>
    rw [hword] at h
    simp only [fill, hword, Option.map_some, reverse_fill]
    dsimp only at h
    by_cases hexpects : r.expects = true
    · rw [if_pos hexpects] at h ⊢
      cases hd : delimiterOf pieces.reverse with
      | none =>
        rw [hd] at h
        cases h
      | some d =>
        rw [hd] at h
        rw [delimiterOf_fill hd, hd]
        cases hdelimiter : r.delimiter with
        | some d' =>
          rw [hdelimiter] at h
          cases h
        | none =>
          rw [hdelimiter] at h
          cases h
          simp only [List.map_cons, fillToken, delimiterOf_fill hd, Option.map_none]
    · rw [if_neg hexpects] at h ⊢
      cases h
      simp only [List.map_cons, fillToken, Option.map_none]

theorem push_fill (r : Reader H) (p : Piece H) (hp : fillPiece value p = [p]) :
    (r.push p).fill value = (r.fill value).push p := by
  unfold push fill
  cases r.word with
  | none => simp [hp]
  | some pieces => simp [hp]

theorem endLine_fill (h : r.endLine = some r') :
    (r.fill value).endLine = some (r'.fill value) := by
  unfold endLine at h ⊢
  cases hfinish : r.finish with
  | none =>
    rw [hfinish] at h
    cases h
  | some r₁ =>
    rw [hfinish] at h
    rw [finish_fill hfinish]
    change (if r₁.expects = true then _ else _) = _ at h
    show (if r₁.expects = true then _ else _) = _
    split_ifs at h ⊢ with hexpects
    dsimp only at h ⊢
    cases hdelimiter : r₁.delimiter with
    | none =>
      rw [hdelimiter] at h
      cases h
      simp only [fill, hdelimiter, List.map_cons, fillToken, fillMode]
    | some d =>
      rw [hdelimiter] at h
      cases h
      simp only [fill, hdelimiter, List.map_cons, fillToken, fillMode, List.map_nil,
        List.flatMap_nil]

theorem operator_fill {c : Char} (h : r.operator c = some r') :
    (r.fill value).operator c = some (r'.fill value) := by
  unfold operator at h ⊢
  cases hfinish : r.finish with
  | none =>
    rw [hfinish] at h
    cases h
  | some r₁ =>
    rw [hfinish] at h
    rw [finish_fill hfinish]
    change (if r₁.expects = true then _ else _) = _ at h
    show (if r₁.expects = true then _ else _) = _
    split_ifs at h ⊢ with hexpects
    cases h
    rfl

theorem bare_fill {c : Char} (h : r.bare c = some r') :
    (r.fill value).bare c = some (r'.fill value) := by
  have hquote : ∀ mode : Mode H, fillMode value mode = mode →
      ({ r with mode, word := some (r.word.getD []), less := false } : Reader H).fill value =
        { r.fill value with mode, word := some ((r.fill value).word.getD []), less := false } := by
    intro mode hmode
    unfold fill
    cases r.word with
    | none => simp [hmode]
    | some pieces => simp [hmode]
  have hnone : (r.fill value).word.isNone = r.word.isNone := by
    unfold fill
    cases r.word <;> rfl
  unfold bare at h ⊢
  rw [hnone]
  by_cases hslash : c = '\\'
  · rw [if_pos hslash] at h ⊢
    cases h
    rfl
  rw [if_neg hslash] at h ⊢
  by_cases hsingle : c = '\''
  · rw [if_pos hsingle] at h ⊢
    cases h
    rw [hquote .single rfl]
  rw [if_neg hsingle] at h ⊢
  by_cases hdouble : c = '"'
  · rw [if_pos hdouble] at h ⊢
    cases h
    rw [hquote .double rfl]
  rw [if_neg hdouble] at h ⊢
  by_cases hcomment : (c = '#' && r.word.isNone) = true
  · rw [if_pos hcomment] at h ⊢
    cases h
    rfl
  rw [if_neg hcomment] at h ⊢
  by_cases hblank : isBlank c = true
  · rw [if_pos hblank] at h ⊢
    cases hfinish : r.finish with
    | none =>
      rw [hfinish] at h
      cases h
    | some r₁ =>
      rw [hfinish] at h
      rw [finish_fill hfinish]
      cases h
      rfl
  rw [if_neg hblank] at h ⊢
  by_cases hline : c = '\n'
  · rw [if_pos hline] at h ⊢
    exact endLine_fill h
  rw [if_neg hline] at h ⊢
  by_cases hoperator : isOperator c = true
  · rw [if_pos hoperator] at h ⊢
    exact operator_fill h
  · rw [if_neg hoperator] at h ⊢
    cases h
    rw [push_fill _ _ rfl]

end Reader

theorem spells_iff {line : List (ShellSymbol H)} {cs : List Char} :
    spells line cs = true ↔ line = cs.map .char := by
  induction line generalizing cs with
  | nil => cases cs <;> simp [spells]
  | cons s line ih =>
    cases cs with
    | nil => cases s <;> simp [spells]
    | cons c cs =>
      cases s with
      | char c' => simp [spells, ih]
      | word h => simp [spells]
      | line h => simp [spells]

/-- A line with a hole does not end a here-document, filled or not. -/
theorem spells_fill (line : List (ShellSymbol H)) (d : Delimiter) :
    spells (line.flatMap (fillSymbol value)) d.chars = spells line d.chars := by
  have hname : ∀ s ∈ line, ∀ c, ShellSymbol.char c ∈ fillSymbol value s → isNameChar c = false →
      ¬line.flatMap (fillSymbol value) = d.chars.map .char := by
    intro s hs c hc hmark heq
    have hmem : ShellSymbol.char c ∈ d.chars.map (@ShellSymbol.char H) :=
      heq ▸ List.mem_flatMap.mpr ⟨s, hs, hc⟩
    obtain ⟨c', hc', hsame⟩ := List.mem_map.mp hmem
    cases hsame
    rw [List.all_eq_true.mp d.name c hc'] at hmark
    cases hmark
  rw [Bool.eq_iff_iff, spells_iff, spells_iff]
  by_cases hholes : ∀ s ∈ line, ∃ c, s = .char c
  · have hsame : line.flatMap (fillSymbol value) = line := by
      clear hname
      induction line with
      | nil => rfl
      | cons s line ih =>
        obtain ⟨⟨c, rfl⟩, hrest⟩ := List.forall_mem_cons.mp hholes
        exact congrArg (ShellSymbol.char c :: ·) (ih hrest)
    rw [hsame]
  · simp only [not_forall] at hholes
    obtain ⟨s, hs, hhole⟩ := hholes
    constructor
    · intro heq
      cases s with
      | char c => exact absurd ⟨c, rfl⟩ hhole
      | word h =>
        refine absurd heq (hname _ hs '\'' ?_ (by decide))
        exact List.mem_map.mpr ⟨'\'', List.mem_cons_self, rfl⟩
      | line h =>
        obtain ⟨c, hc, hmark⟩ := value.line_marked h
        exact absurd heq (hname _ hs c (List.mem_map.mpr ⟨c, hc, rfl⟩) hmark)
    · intro heq
      rw [heq] at hs
      obtain ⟨c, -, hc⟩ := List.mem_map.mp hs
      exact absurd ⟨c, hc.symm⟩ hhole

namespace Reader

variable {r r' : Reader H}

theorem line_read {d : Delimiter} {lines : List (List (ShellSymbol H))}
    {line : List (ShellSymbol H)} {text : List Char}
    (hmode : r.mode = .document d lines line) (htext : '\n' ∉ text) :
    (text.map ShellSymbol.char).foldlM step r =
      some { r with mode := .document d lines ((text.map .char).reverse ++ line) } := by
  induction text generalizing r line with
  | nil =>
    show some r = _
    rw [List.map_nil, List.reverse_nil, List.nil_append, ← hmode]
  | cons c text ih =>
    have hc : c ≠ '\n' := fun heq => htext (heq ▸ List.mem_cons_self)
    have hrest : '\n' ∉ text := fun hmem => htext (List.mem_cons_of_mem _ hmem)
    have hstep : step r (.char c) =
      some { r with mode := .document d lines (.char c :: line) } := by
      simp only [step, hmode, if_neg hc]
    rw [List.map_cons, List.foldlM_cons, hstep]
    refine (ih rfl hrest).trans ?_
    simp

/-- One symbol is read as its filling is. -/
theorem step_fill {s : ShellSymbol H} (h : r.step s = some r') :
    (fillSymbol value s).foldlM step (r.fill value) = some (r'.fill value) := by
  have hone : ∀ c, (fillSymbol value (.char c)).foldlM step (r.fill value) =
      (r.fill value).step (.char c) := by
    intro c
    show (((r.fill value).step (.char c)) >>= fun r => pure r) = _
    exact bind_pure _
  cases s with
  | char c =>
    rw [hone]
    have hmode : (r.fill value).mode = fillMode value r.mode := rfl
    cases hcase : r.mode with
    | bare =>
      rw [hcase] at hmode
      simp only [step, hcase] at h
      simp only [step, hmode, fillMode]
      exact bare_fill h
    | escaped =>
      rw [hcase] at hmode
      simp only [step, hcase] at h
      simp only [step, hmode, fillMode]
      split_ifs at h ⊢ with hline
      · cases h
        rfl
      · cases h
        rw [← push_fill _ _ rfl]
        rfl
    | single =>
      rw [hcase] at hmode
      simp only [step, hcase] at h
      simp only [step, hmode, fillMode]
      split_ifs at h ⊢ with hquote
      · cases h
        rfl
      · cases h
        rw [push_fill _ _ rfl]
    | double =>
      rw [hcase] at hmode
      simp only [step, hcase] at h
      simp only [step, hmode, fillMode]
      split_ifs at h ⊢ with hquote hslash
      · cases h
        rfl
      · cases h
        rfl
      · cases h
        rw [push_fill _ _ rfl]
    | doubleEscaped =>
      rw [hcase] at hmode
      simp only [step, hcase] at h
      simp only [step, hmode, fillMode]
      split_ifs at h ⊢ with hline hspecial
      · cases h
        rfl
      · cases h
        rw [← push_fill _ _ rfl]
        rfl
      · cases h
        rw [← push_fill _ _ rfl, ← push_fill _ _ rfl]
        rfl
    | comment =>
      rw [hcase] at hmode
      simp only [step, hcase] at h
      simp only [step, hmode, fillMode]
      split_ifs at h ⊢ with hline
      · exact endLine_fill h
      · cases h
        rfl
    | document d lines line =>
      rw [hcase] at hmode
      simp only [step, hcase] at h
      simp only [step, hmode, fillMode, reverse_fill, spells_fill]
      split_ifs at h ⊢ with hline hends
      · cases h
        simp only [fill, fillMode, List.map_cons, List.map_reverse, fillToken]
      · cases h
        simp only [fill, fillMode, List.map_cons, List.flatMap_nil]
      · cases h
        rfl
  | word hole =>
    have hmode : (r.fill value).mode = fillMode value r.mode := rfl
    cases hcase : r.mode with
    | bare =>
      rw [hcase] at hmode
      simp only [step, hcase] at h
      cases h
      rw [fillSymbol, quote_read _ hmode]
      unfold pushAll push fill
      cases r.word with
      | none => simp [fillPiece]
      | some pieces => simp [fillPiece]
    | _ =>
      simp only [step, hcase] at h
      cases h
  | line hole =>
    have hmode : (r.fill value).mode = fillMode value r.mode := rfl
    cases hcase : r.mode with
    | document d lines line =>
      rw [hcase] at hmode
      cases line with
      | cons s line =>
        simp only [step, hcase] at h
        cases h
      | nil =>
        simp only [step, hcase] at h
        cases h
        rw [fillSymbol, line_read hmode (value.line_whole hole)]
        simp [fill, fillMode, fillSymbol]
    | _ =>
      simp only [step, hcase] at h
      cases h

theorem foldlM_fill {text : List (ShellSymbol H)} (h : text.foldlM step r = some r') :
    (text.flatMap (fillSymbol value)).foldlM step (r.fill value) = some (r'.fill value) := by
  induction text generalizing r with
  | nil =>
    cases h
    rfl
  | cons s text ih =>
    rw [List.foldlM_cons] at h
    cases hstep : r.step s with
    | none =>
      rw [hstep] at h
      cases h
    | some r₁ =>
      rw [hstep] at h
      rw [List.flatMap_cons, List.foldlM_append, step_fill hstep]
      exact ih h

end Reader

/-- Filling the holes of a text fills the tokens it is read as. -/
theorem read_fill {text : List (ShellSymbol H)} {tokens : List (Token H)}
    (h : read text = some tokens) :
    read (text.flatMap (fillSymbol value)) = some (tokens.map (fillToken value)) := by
  unfold read at h ⊢
  cases hrun : text.foldlM Reader.step Reader.start with
  | none =>
    rw [hrun] at h
    cases h
  | some r =>
    have hfilled := @Reader.foldlM_fill H value Reader.start r text hrun
    have hstart : Reader.start.fill value = Reader.start := rfl
    rw [hstart] at hfilled
    rw [hrun] at h
    rw [hfilled]
    cases hfinish : r.finish with
    | none =>
      simp only [Option.bind_eq_bind, Option.bind_some, hfinish, Option.bind_none] at h
      cases h
    | some r₁ =>
      simp only [Option.bind_eq_bind, Option.bind_some, hfinish] at h
      simp only [Option.bind_eq_bind, Option.bind_some, Reader.finish_fill hfinish]
      have hmode : (r₁.fill value).mode = fillMode value r₁.mode := rfl
      have hexpects : (r₁.fill value).expects = r₁.expects := rfl
      have hdelimiter : (r₁.fill value).delimiter = r₁.delimiter := rfl
      rw [hmode, hexpects, hdelimiter]
      cases hcase : r₁.mode with
      | bare =>
        rw [hcase] at h
        cases he : r₁.expects with
        | true =>
          rw [he] at h
          cases h
        | false =>
          cases hd : r₁.delimiter with
          | some d =>
            rw [he, hd] at h
            cases h
          | none =>
            rw [he, hd] at h
            cases h
            simp [fillMode, Reader.fill]
      | _ =>
        rw [hcase] at h
        cases h

end

/-- The text of a here-document. -/
def documentText (lines : List (List (ShellSymbol H))) : List (ShellSymbol H) :=
  lines.flatMap fun line => line ++ [.char '\n']

def documentLines : Token H → Option (List (List (ShellSymbol H)))
  | .document lines => some lines
  | _ => none

/-- The texts of the here-documents that a shell reads in a text. -/
def hereDocuments (text : List (ShellSymbol H)) : Option (List (List (ShellSymbol H))) :=
  (read text).map fun tokens => (tokens.filterMap documentLines).map documentText

theorem documentLines_fill (value : Filling H) (tokens : List (Token H)) :
    (tokens.map (fillToken value)).filterMap documentLines =
      (tokens.filterMap documentLines).map fun lines =>
        lines.map fun line => line.flatMap (fillSymbol value) := by
  induction tokens with
  | nil => rfl
  | cons token tokens ih =>
    cases token with
    | document lines => exact congrArg (_ :: ·) ih
    | _ => exact ih

section

variable (ends : List (List Char))

/-- Whether a line has a character that none of the ends has. -/
def isMarked (line : List Char) : Bool := line.any fun c => ends.all fun e => !e.contains c

/-- A text from the middle of a line, the latest first, as long as no line is one of the ends. -/
def scan : List Char → List Char → Option (List Char)
  | line, [] => some line
  | line, c :: text =>
    if c = '\n' then if ends.contains line.reverse then none else scan [] text
    else scan (c :: line) text

/-- The same for a text with holes; a line that is marked is forgotten. -/
def scanHoles : Option (List Char) → List (ShellSymbol H) → Bool
  | _, [] => true
  | line, .char c :: text =>
    if c = '\n' then
      if line.any fun line => ends.contains line.reverse then false else scanHoles (some []) text
    else scanHoles (line.bind fun line =>
      if isMarked ends (c :: line) then none else some (c :: line)) text
  | _, .word _ :: text => scanHoles none text
  | _, .line _ :: text => scanHoles none text

end

section

variable {ends : List (List Char)} {value : Filling H}

theorem scan_append (line text rest : List Char) :
    scan ends line (text ++ rest) = (scan ends line text).bind fun line => scan ends line rest := by
  induction text generalizing line with
  | nil => rfl
  | cons c text ih =>
    rw [List.cons_append, scan, scan]
    by_cases hc : c = '\n'
    · rw [if_pos hc, if_pos hc]
      split_ifs
      · rfl
      · exact ih []
    · rw [if_neg hc, if_neg hc]
      exact ih (c :: line)

theorem not_ends_of_isMarked {line : List Char} (h : isMarked ends line = true) :
    ends.contains line.reverse = false := by
  obtain ⟨c, hc, hmark⟩ := List.any_eq_true.mp h
  rw [Bool.eq_false_iff]
  intro hends
  have hfree := List.all_eq_true.mp hmark _ (List.contains_iff_mem.mp hends)
  simp only [Bool.not_eq_true', List.contains_eq_mem, List.mem_reverse, decide_eq_false_iff_not]
    at hfree
  exact hfree hc

theorem isMarked_append {line : List Char} (more : List Char) (h : isMarked ends line = true) :
    isMarked ends (more ++ line) = true := by
  rw [isMarked, List.any_append, Bool.or_eq_true]
  exact .inr h

/-- A text without line ends leaves a marked line marked. -/
theorem scan_marked {line text : List Char} (hline : isMarked ends line = true)
    (htext : '\n' ∉ text) : ∃ line', scan ends line text = some line' ∧
      isMarked ends line' = true := by
  induction text generalizing line with
  | nil => exact ⟨line, rfl, hline⟩
  | cons c text ih =>
    have hc : c ≠ '\n' := fun heq => htext (heq ▸ List.mem_cons_self)
    rw [scan, if_neg hc]
    exact ih (isMarked_append [c] hline) fun hmem => htext (List.mem_cons_of_mem _ hmem)

/-- Behind the end of a line nothing is left of the marked line before it. -/
theorem scan_of_marked {line line' text : List Char} (hline : isMarked ends line = true)
    (hline' : isMarked ends line' = true) (h : '\n' ∈ text) :
    scan ends line text = scan ends line' text := by
  induction text generalizing line line' with
  | nil => cases h
  | cons c text ih =>
    rw [scan, scan]
    by_cases hc : c = '\n'
    · rw [if_pos hc, if_pos hc, not_ends_of_isMarked hline, not_ends_of_isMarked hline']
    · rw [if_neg hc, if_neg hc]
      exact ih (isMarked_append [c] hline) (isMarked_append [c] hline')
        ((List.mem_cons.mp h).resolve_left (Ne.symm hc))

/-- A text inside a marked line changes nothing for the lines behind it. -/
theorem scan_inside {before value text line : List Char} (hbefore : scan ends [] before = some line)
    (hline : isMarked ends line = true) (hvalue : '\n' ∉ value) (h : '\n' ∈ text) :
    scan ends [] (before ++ (value ++ text)) = scan ends [] (before ++ text) := by
  obtain ⟨line', hscan, hmark⟩ := scan_marked hline hvalue
  rw [scan_append, scan_append, hbefore, Option.bind_some, Option.bind_some, scan_append, hscan,
    Option.bind_some]
  exact scan_of_marked hmark hline h

/-- A quoted text is whole, or each of the ends has a character that it has not. -/
def Guarded (ends : List (List Char)) (text : List Char) : Prop :=
  '\n' ∈ text → ∀ e ∈ ends, ∃ c ∈ e, c ∉ text ∧ c ≠ '\'' ∧ c ≠ '\\'

/-- Characters from which no end can be made. -/
def Harmless (ends : List (List Char)) (text line : List Char) : Prop :=
  isMarked ends line = true ∨ ∀ c ∈ line, c ∈ text ∨ c = '\'' ∨ c = '\\'

theorem scan_harmless {text line cs : List Char}
    (hends : ∀ e ∈ ends, ∃ c ∈ e, c ∉ text ∧ c ≠ '\'' ∧ c ≠ '\\')
    (hline : Harmless ends text line) (hcs : ∀ c ∈ cs, c ∈ text ∨ c = '\'' ∨ c = '\\') :
    ∃ line', scan ends line cs = some line' ∧ Harmless ends text line' := by
  induction cs generalizing line with
  | nil => exact ⟨line, rfl, hline⟩
  | cons c cs ih =>
    obtain ⟨hc, hcs⟩ := List.forall_mem_cons.mp hcs
    rw [scan]
    by_cases hend : c = '\n'
    · have hfree : ends.contains line.reverse = false := by
        rcases hline with hmark | hsub
        · exact not_ends_of_isMarked hmark
        · rw [Bool.eq_false_iff]
          intro hmem
          obtain ⟨c', hc', htext, hquote, hslash⟩ := hends _ (List.contains_iff_mem.mp hmem)
          rcases hsub c' (List.mem_reverse.mp hc') with h | h | h
          · exact htext h
          · exact hquote h
          · exact hslash h
      rw [if_pos hend, hfree, if_neg (by decide)]
      exact ih (.inr nofun) hcs
    · rw [if_neg hend]
      refine ih ?_ hcs
      rcases hline with hmark | hsub
      · exact .inl (isMarked_append [c] hmark)
      · exact .inr (List.forall_mem_cons.mpr ⟨hc, hsub⟩)

theorem scan_quote {line text : List Char} (hquote : isMarked ends ['\''] = true)
    (h : Guarded ends text) :
    ∃ line', scan ends line (quote text) = some line' ∧ isMarked ends line' = true := by
  have hmem : ∀ c ∈ text.flatMap (fun c => if c = '\'' then ['\'', '\\', '\'', '\''] else [c]),
      c ∈ text ∨ c = '\'' ∨ c = '\\' := by
    intro c hc
    obtain ⟨c', hc', hin⟩ := List.mem_flatMap.mp hc
    split_ifs at hin with hmark
    · simp only [List.mem_cons, List.not_mem_nil, or_false] at hin
      rcases hin with rfl | rfl | rfl | rfl <;> simp
    · exact .inl (List.mem_singleton.mp hin ▸ hc')
  have hopen : isMarked ends ('\'' :: line) = true := by
    obtain ⟨c, hc, hfree⟩ := List.any_eq_true.mp hquote
    rw [List.mem_singleton.mp hc] at hfree
    exact List.any_eq_true.mpr ⟨'\'', List.mem_cons_self, hfree⟩
  have hstart : scan ends line (quote text) = scan ends ('\'' :: line)
      (text.flatMap (fun c => if c = '\'' then ['\'', '\\', '\'', '\''] else [c]) ++ ['\'']) := by
    rw [quote, List.cons_append, scan, if_neg (by decide)]
  rw [hstart]
  by_cases hlines : '\n' ∈ text
  · obtain ⟨line', hscan, -⟩ := scan_harmless (h hlines) (.inl hopen) hmem
    rw [scan_append, hscan]
    refine ⟨'\'' :: line', rfl, ?_⟩
    obtain ⟨c, hc, hfree⟩ := List.any_eq_true.mp hquote
    rw [List.mem_singleton.mp hc] at hfree
    exact List.any_eq_true.mpr ⟨'\'', List.mem_cons_self, hfree⟩
  · refine scan_marked hopen fun hin => ?_
    rcases List.mem_append.mp hin with hin | hin
    · rcases hmem _ hin with h | h | h
      · exact hlines h
      · cases h
      · cases h
    · cases List.mem_singleton.mp hin

/-- The characters a symbol is filled with. -/
def fillChars (value : Filling H) : ShellSymbol H → List Char
  | .char c => [c]
  | .word h => quote (value.word h)
  | .line h => value.line h

theorem fillSymbol_eq (s : ShellSymbol H) : fillSymbol value s = (fillChars value s).map .char := by
  cases s <;> rfl

theorem flatMap_fillSymbol (text : List (ShellSymbol H)) :
    text.flatMap (fillSymbol value) = (text.flatMap (fillChars value)).map .char := by
  rw [List.map_flatMap]
  exact congrArg (text.flatMap ·) (funext fillSymbol_eq)

/-- A text whose holes are filled has no line that is one of the ends, when the text with the holes
has none. -/
theorem scan_fill {text : List (ShellSymbol H)} {line : List Char} {seen : Option (List Char)}
    (hquote : isMarked ends ['\''] = true) (hline : ∀ h, isMarked ends (value.line h) = true)
    (hword : ∀ h, .word h ∈ text → Guarded ends (value.word h))
    (hseen : ∀ l, seen = some l → line = l) (hmark : seen = none → isMarked ends line = true)
    (h : scanHoles ends seen text = true) :
    ∃ line', scan ends line (text.flatMap (fillChars value)) = some line' := by
  induction text generalizing line seen with
  | nil => exact ⟨line, rfl⟩
  | cons s text ih =>
    have hrest : ∀ h, .word h ∈ text → Guarded ends (value.word h) :=
      fun h hmem => hword h (List.mem_cons_of_mem _ hmem)
    rw [List.flatMap_cons, scan_append]
    cases s with
    | char c =>
      rw [scanHoles] at h
      show ∃ line', (scan ends line [c]).bind _ = _
      rw [scan]
      by_cases hc : c = '\n'
      · rw [if_pos hc] at h ⊢
        have hfree : ends.contains line.reverse = false := by
          cases hcase : seen with
          | none => exact not_ends_of_isMarked (hmark hcase)
          | some l =>
            rw [hcase] at h
            rw [hseen l hcase]
            cases hl : ends.contains l.reverse with
            | false => rfl
            | true =>
              rw [Option.any_some, hl, if_pos rfl] at h
              cases h
        rw [hfree, if_neg (by decide)]
        refine @ih [] (some []) hrest (fun l hl => Option.some.inj hl) nofun ?_
        split_ifs at h
        exact h
      · rw [if_neg hc] at h ⊢
        refine ih hrest ?_ ?_ h
        · intro l hl
          cases hcase : seen with
          | none =>
            rw [hcase] at hl
            cases hl
          | some l' =>
            rw [hcase, Option.bind_some] at hl
            split_ifs at hl
            rw [hseen l' hcase]
            exact Option.some.inj hl
        · intro hnone
          cases hcase : seen with
          | none => exact isMarked_append [c] (hmark hcase)
          | some l' =>
            rw [hcase, Option.bind_some] at hnone
            split_ifs at hnone with hm
            rw [hseen l' hcase]
            exact hm
    | word hole =>
      obtain ⟨line', hscan, hmarked⟩ :=
        @scan_quote ends line _ hquote (hword hole List.mem_cons_self)
      show ∃ line', (scan ends line (quote (value.word hole))).bind _ = _
      rw [hscan]
      exact @ih line' none hrest nofun (fun _ => hmarked) h
    | line hole =>
      have hmarked : ∀ text : List Char, '\n' ∉ text → ∀ line, scan ends line text =
          some (text.reverse ++ line) := by
        intro text
        induction text with
        | nil => exact fun _ line => rfl
        | cons c text ih =>
          intro hin line
          have hc : c ≠ '\n' := fun heq => hin (heq ▸ List.mem_cons_self)
          rw [scan, if_neg hc, ih fun hmem => hin (List.mem_cons_of_mem _ hmem)]
          simp
      show ∃ line', (scan ends line (value.line hole)).bind _ = _
      rw [hmarked _ (value.line_whole hole)]
      refine @ih _ none hrest nofun (fun _ => ?_) h
      rw [isMarked, List.any_append, List.any_reverse, Bool.or_eq_true]
      exact .inl (hline hole)

end

namespace Reader

/-- A text none of whose lines is the delimiter is read into a here-document. -/
theorem document_read {r : Reader H} {d : Delimiter} {ends : List (List Char)}
    {lines : List (List (ShellSymbol H))} {line line' text : List Char} (hd : d.chars ∈ ends)
    (hmode : r.mode = .document d lines (line.map .char))
    (hscan : scan ends line text = some line') :
    ∃ more, (text.map ShellSymbol.char).foldlM step r =
        some { r with mode := .document d (more.reverse ++ lines) (line'.map .char) } ∧
      (line.reverse ++ text).map ShellSymbol.char =
        documentText more ++ line'.reverse.map (@ShellSymbol.char H) := by
  induction text generalizing r lines line with
  | nil =>
    cases hscan
    refine ⟨[], ?_, ?_⟩
    · show some r = _
      rw [List.reverse_nil, List.nil_append, ← hmode]
    · simp [documentText]
  | cons c text ih =>
    rw [scan] at hscan
    by_cases hc : c = '\n'
    · subst hc
      rw [if_pos rfl] at hscan
      split_ifs at hscan with hends
      have hspells : spells (line.map (@ShellSymbol.char H)).reverse d.chars = false := by
        rw [Bool.eq_false_iff]
        intro hsame
        rw [spells_iff, ← List.map_reverse] at hsame
        have heq : line.reverse = d.chars := by
          refine List.map_injective_iff.mpr (fun a b hab => ?_) hsame
          exact ShellSymbol.char.inj hab
        exact hends (List.contains_iff_mem.mpr (heq ▸ hd))
      have hstep : step r (.char '\n') = some { r with
          mode := .document d ((line.map .char).reverse :: lines) [] } := by
        simp only [step, hmode, hspells]
        rfl
      obtain ⟨more, hrun, htext⟩ := @ih
        { r with mode := .document d ((line.map .char).reverse :: lines) [] }
        ((line.map .char).reverse :: lines) [] rfl hscan
      refine ⟨(line.map .char).reverse :: more, ?_, ?_⟩
      · rw [List.map_cons, List.foldlM_cons, hstep]
        refine hrun.trans ?_
        simp
      · have hsame : documentText ((line.map ShellSymbol.char).reverse :: more) =
            line.reverse.map (@ShellSymbol.char H) ++ .char '\n' :: documentText more := by
          simp [documentText]
        rw [hsame, List.append_assoc, List.cons_append, ← htext]
        simp
    · rw [if_neg hc] at hscan
      have hstep : step r (.char c) = some { r with
          mode := .document d lines ((c :: line).map .char) } := by
        simp only [step, hmode, if_neg hc]
        rfl
      obtain ⟨more, hrun, htext⟩ := @ih { r with mode := .document d lines ((c :: line).map .char) }
        lines (c :: line) rfl hscan
      refine ⟨more, ?_, ?_⟩
      · rw [List.map_cons, List.foldlM_cons, hstep]
        exact hrun
      · rw [← htext]
        simp

end Reader

/-- A here-document is all of a text none of whose lines is its delimiter. -/
theorem read_document {before : List (ShellSymbol H)} {r : Reader H} {d : Delimiter}
    {ends : List (List Char)} {text : List Char}
    (hbefore : before.foldlM Reader.step Reader.start = some r) (hmode : r.mode = .document d [] [])
    (hword : r.word = none) (hexpects : r.expects = false) (hdelimiter : r.delimiter = none)
    (hd : d.chars ∈ ends) (hscan : scan ends [] text = some []) :
    ∃ lines, read (before ++ (text ++ d.chars ++ ['\n']).map .char) =
        some (r.tokens.reverse ++ [.document lines]) ∧
      documentText lines = text.map ShellSymbol.char := by
  obtain ⟨lines, hrun, htext⟩ := @Reader.document_read H r d ends [] [] [] text hd hmode hscan
  refine ⟨lines, ?_, ?_⟩
  · have hname : '\n' ∉ d.chars := by
      intro hmem
      have hno := List.all_eq_true.mp d.name _ hmem
      exact absurd hno (by decide)
    have hends : spells (d.chars.map (@ShellSymbol.char H)).reverse.reverse d.chars = true := by
      rw [List.reverse_reverse]
      exact spells_iff.mpr rfl
    have hlast : ∀ line, spells line.reverse d.chars = true →
        Reader.step { r with mode := .document d lines.reverse line } (.char '\n') =
          some { r with mode := .bare, tokens := .document lines :: r.tokens } := by
      intro line hline
      simp only [Reader.step, hline]
      simp
    rw [List.append_nil] at hrun
    have hline := @Reader.line_read H { r with mode := .document d lines.reverse [] } d
      lines.reverse [] d.chars rfl hname
    rw [List.append_nil] at hline
    unfold read
    rw [List.foldlM_append, hbefore, List.map_append, List.map_append]
    simp only [Option.bind_eq_bind, Option.bind_some, List.foldlM_append]
    rw [hrun]
    simp only [Option.bind_some, List.map_nil]
    rw [hline]
    simp only [Option.bind_some, List.map_cons, List.map_nil, List.foldlM_cons, List.foldlM_nil]
    rw [hlast _ hends]
    simp [Reader.finish, hword, hexpects, hdelimiter]
  · simpa using htext.symm

end ShellText
