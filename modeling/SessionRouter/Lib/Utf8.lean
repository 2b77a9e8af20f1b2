import Mathlib.Data.List.Basic
import Mathlib.Algebra.BigOperators.Group.List.Basic
import Mathlib.Algebra.GroupWithZero.Nat

/-!
Byte offsets in a text that is encoded in UTF-8.
-/

namespace Utf8

/-- The bytes of a text. -/
def len (text : List Char) : ℕ := (text.map Char.utf8Size).sum

/-- The parts of a text before and after a byte offset, when it lies between two characters. -/
def splitAt : List Char → ℕ → Option (List Char × List Char)
  | text, 0 => some ([], text)
  | [], _ + 1 => none
  | c :: text, n + 1 =>
    if c.utf8Size ≤ n + 1 then
      (splitAt text (n + 1 - c.utf8Size)).map fun parts => (c :: parts.1, parts.2)
    else none

/-- The text between two byte offsets. -/
def slice (text : List Char) (start stop : ℕ) : Option (List Char) :=
  (splitAt text stop).bind fun parts => (splitAt parts.1 start).map Prod.snd

/-- The byte offset at which a character occurs first. -/
def find (c : Char) : List Char → Option ℕ
  | [] => none
  | d :: text => if d = c then some 0 else (find c text).map (· + d.utf8Size)

/-- The byte offset at which a character occurs last. -/
def rfind (c : Char) : List Char → Option ℕ
  | [] => none
  | d :: text =>
    match rfind c text with
    | some n => some (n + d.utf8Size)
    | none => if d = c then some 0 else none

variable {a b text : List Char} {c : Char} {n : ℕ}

@[simp] theorem len_nil : len [] = 0 := rfl

@[simp] theorem len_cons (c : Char) (text : List Char) :
    len (c :: text) = c.utf8Size + len text := by
  simp [len]

@[simp] theorem len_append (a b : List Char) : len (a ++ b) = len a + len b := by
  simp [len]

theorem splitAt_zero (text : List Char) : splitAt text 0 = some ([], text) := by
  cases text <;> rfl

theorem splitAt_len (a b : List Char) : splitAt (a ++ b) (len a) = some (a, b) := by
  induction a with
  | nil => exact splitAt_zero b
  | cons c a ih =>
    have hpos := Char.utf8Size_pos c
    obtain ⟨m, hm⟩ : ∃ m, c.utf8Size + len a = m + 1 := ⟨c.utf8Size + len a - 1, by omega⟩
    have hrest : m + 1 - c.utf8Size = len a := by omega
    rw [List.cons_append, len_cons, hm]
    unfold splitAt
    rw [if_pos (by omega), hrest, ih]
    rfl

/-- A byte offset splits a text in one way. -/
theorem split_unique {a' b' : List Char} (h : a ++ b = a' ++ b') (hlen : len a = len a') :
    a = a' ∧ b = b' := by
  have hsplit := splitAt_len a b
  rw [h, hlen, splitAt_len] at hsplit
  obtain ⟨ha, hb⟩ := Prod.mk.inj (Option.some.inj hsplit)
  exact ⟨ha.symm, hb.symm⟩

theorem slice_len (a text b : List Char) :
    slice (a ++ text ++ b) (len a) (len a + len text) = some text := by
  unfold slice
  rw [← len_append, splitAt_len]
  show (splitAt (a ++ text) (len a)).map Prod.snd = _
  rw [splitAt_len]
  rfl

theorem find_eq_none : find c text = none ↔ c ∉ text := by
  induction text with
  | nil => simp [find]
  | cons d text ih =>
    unfold find
    split
    · next h => simp [h]
    · next h =>
      rw [Option.map_eq_none_iff, ih, List.mem_cons, not_or]
      exact ⟨fun hmem => ⟨fun hc => h hc.symm, hmem⟩, fun hmem => hmem.2⟩

theorem find_eq_some (h : find c text = some n) :
    ∃ a b, text = a ++ c :: b ∧ c ∉ a ∧ n = len a := by
  induction text generalizing n with
  | nil => cases h
  | cons d text ih =>
    unfold find at h
    split at h
    · next hd =>
      cases h
      exact ⟨[], text, by rw [hd]; rfl, by simp, rfl⟩
    · next hd =>
      obtain ⟨m, hm, rfl⟩ := Option.map_eq_some_iff.mp h
      obtain ⟨a, b, rfl, hmem, rfl⟩ := ih hm
      refine ⟨d :: a, b, rfl, ?_, ?_⟩
      · rw [List.mem_cons, not_or]
        exact ⟨fun hc => hd hc.symm, hmem⟩
      · rw [len_cons, Nat.add_comm]

theorem rfind_eq_none : rfind c text = none ↔ c ∉ text := by
  induction text with
  | nil => simp [rfind]
  | cons d text ih =>
    unfold rfind
    cases hrest : rfind c text with
    | some m =>
      have hmem : c ∈ text := by
        by_contra hnot
        rw [ih.mpr hnot] at hrest
        cases hrest
      simp [hmem]
    | none =>
      have hmem := ih.mp hrest
      simp only [List.mem_cons, not_or, hmem, not_false_eq_true, and_true]
      split
      · next hd => simp [hd]
      · next hd => simp [Ne.symm hd]

theorem rfind_eq_some (h : rfind c text = some n) :
    ∃ a b, text = a ++ c :: b ∧ c ∉ b ∧ n = len a := by
  induction text generalizing n with
  | nil => cases h
  | cons d text ih =>
    unfold rfind at h
    cases hrest : rfind c text with
    | some m =>
      rw [hrest] at h
      cases h
      obtain ⟨a, b, rfl, hmem, rfl⟩ := ih hrest
      exact ⟨d :: a, b, rfl, hmem, by rw [len_cons, Nat.add_comm]⟩
    | none =>
      rw [hrest] at h
      dsimp only at h
      split at h
      · next hd =>
        cases h
        exact ⟨[], text, by rw [hd]; rfl, rfind_eq_none.mp hrest, rfl⟩
      · cases h

end Utf8
