import Mathlib.Data.List.Basic
import Mathlib.Data.List.Pairwise

/-!
Sliding windows over a log whose entries carry the instant at which they were made.
-/

namespace List

variable {α : Type}

/-- The entries in the half-open window of length `w` that starts at `t`. -/
def within (w t : ℕ) (l : List (ℕ × α)) : List (ℕ × α) :=
  l.filter fun e => t ≤ e.1 && e.1 < t + w

/-- The entries that a window of length `w` ending with `now` still holds. -/
def recentAt (w now : ℕ) (l : List (ℕ × α)) : List (ℕ × α) :=
  l.filter fun e => now < e.1 + w

variable {w t now later : ℕ} {l : List (ℕ × α)}

theorem recentAt_sublist : (l.recentAt w now).Sublist l := filter_sublist

theorem recentAt_concat {e : ℕ × α} (h : now < e.1 + w) :
    (l ++ [e]).recentAt w now = l.recentAt w now ++ [e] := by
  simp [recentAt, h]

/-- An entry that has left the window does not come back. -/
theorem recentAt_recentAt (h : now ≤ later) :
    (l.recentAt w now).recentAt w later = l.recentAt w later := by
  unfold recentAt
  rw [filter_filter]
  apply filter_congr
  intro e _
  by_cases he : later < e.1 + w
  · have hnow : now < e.1 + w := by omega
    simp [he, hnow]
  · simp [he]

/-- In the order of time, the entries that have left the window come first. -/
theorem recentAt_of_kept {e : ℕ × α} (hsorted : (e :: l).Pairwise fun a b => a.1 ≤ b.1)
    (h : now < e.1 + w) : (e :: l).recentAt w now = e :: l := by
  unfold recentAt
  apply filter_eq_self.mpr
  intro a ha
  rcases mem_cons.mp ha with rfl | ha
  · simpa using h
  · have hle := (pairwise_cons.mp hsorted).1 a ha
    simp only [decide_eq_true_eq]
    omega

theorem recentAt_of_expired {e : ℕ × α} (h : ¬now < e.1 + w) :
    (e :: l).recentAt w now = l.recentAt w now := by
  simp [recentAt, h]

/-- Every window that holds `now` keeps to the entries that are recent at `now`. -/
theorem within_sublist_recentAt (hnow : now < t + w) :
    (l.within w t).Sublist (l.recentAt w now) := by
  apply monotone_filter_right
  intro e he
  simp only [Bool.and_eq_true, decide_eq_true_eq] at he ⊢
  omega

/-- The recent entries are those of one window that holds `now`. -/
theorem within_eq_recentAt (hpast : ∀ e ∈ l, e.1 ≤ now) :
    l.within w (now + 1 - w) = l.recentAt w now := by
  apply filter_congr
  intro e he
  have hle := hpast e he
  rw [Bool.eq_iff_iff]
  simp only [Bool.and_eq_true, decide_eq_true_eq]
  omega

theorem within_concat_of_mem {e : ℕ × α} (hlow : t ≤ e.1) (hhigh : e.1 < t + w) :
    (l ++ [e]).within w t = l.within w t ++ [e] := by
  simp [within, hlow, hhigh]

theorem within_concat_of_not_mem {e : ℕ × α} (h : ¬(t ≤ e.1 ∧ e.1 < t + w)) :
    (l ++ [e]).within w t = l.within w t := by
  have hb : (decide (t ≤ e.1) && decide (e.1 < t + w)) = false := by
    rw [Bool.eq_false_iff]
    simpa using h
  simp [within, filter_append, hb]

end List
