import Mathlib.Data.List.Basic
import Mathlib.Algebra.BigOperators.Group.List.Basic
import Mathlib.Algebra.GroupWithZero.Nat

/-!
Items of different sizes laid out greedily in rows of a fixed width. A row that has no size yet
takes any item, even one that is wider than the row.
-/

namespace Wrap

variable {α : Type} (size : α → ℕ) (width : ℕ)

def total (row : List α) : ℕ := (row.map size).sum

/-- The item opens a new row after this one. -/
def Breaks (row : List α) (item : α) : Prop :=
  0 < total size row ∧ width < total size row + size item

instance (row : List α) (item : α) : Decidable (Breaks size width row item) :=
  inferInstanceAs (Decidable (_ ∧ _))

/-- The rows of a layout that has come to `row`. -/
def rowsFrom (row : List α) : List α → List (List α)
  | [] => [row]
  | item :: items =>
    if Breaks size width row item then row :: rowsFrom [item] items
    else rowsFrom (row ++ [item]) items

def rows (items : List α) : List (List α) := rowsFrom size width [] items

variable {size width} {row items more : List α}

@[simp] theorem total_nil : total size ([] : List α) = 0 := rfl

@[simp] theorem total_concat (row : List α) (item : α) :
    total size (row ++ [item]) = total size row + size item := by
  simp [total]

@[simp] theorem total_singleton (item : α) : total size [item] = size item := by simp [total]

theorem rowsFrom_ne_nil : rowsFrom size width row items ≠ [] := by
  induction items generalizing row with
  | nil => simp [rowsFrom]
  | cons item items ih =>
    unfold rowsFrom
    split
    · simp
    · exact ih

/-- Nothing is lost or moved. -/
theorem flatten_rowsFrom : (rowsFrom size width row items).flatten = row ++ items := by
  induction items generalizing row with
  | nil => simp [rowsFrom]
  | cons item items ih =>
    unfold rowsFrom
    split
    · rw [List.flatten_cons, ih]
      rfl
    · rw [ih, List.append_assoc]
      rfl

/-- No row is too wide, unless a single item of it is. -/
theorem fits_of_mem {r : List α} (h : r ∈ rowsFrom size width row items)
    (hrow : total size row ≤ width ∨ ∃ item ∈ row, width < size item) :
    total size r ≤ width ∨ ∃ item ∈ r, width < size item := by
  have hnew : ∀ (before : List α) (item : α), total size before + size item ≤ width ∨
      total size before = 0 → total size (before ++ [item]) ≤ width ∨
        ∃ i ∈ before ++ [item], width < size i := by
    intro before item hcases
    by_cases hwide : width < size item
    · exact .inr ⟨item, by simp, hwide⟩
    · rw [total_concat]
      exact .inl (by omega)
  induction items generalizing row with
  | nil =>
    obtain rfl := List.mem_singleton.mp h
    exact hrow
  | cons item items ih =>
    unfold rowsFrom at h
    split at h
    · rcases List.mem_cons.mp h with rfl | h
      · exact hrow
      · exact ih h (hnew [] item (.inr rfl))
    · next hbreaks =>
      refine ih h (hnew row item ?_)
      unfold Breaks at hbreaks
      omega

/-- The row that a layout has come to. -/
def lastRow (rows : List (List α)) : List α := rows.getLastD []

/-- A layout goes on in the last row of what was laid out before. -/
theorem rowsFrom_append : rowsFrom size width row (items ++ more) =
    (rowsFrom size width row items).dropLast ++
      rowsFrom size width (lastRow (rowsFrom size width row items)) more := by
  induction items generalizing row with
  | nil => simp [rowsFrom, lastRow]
  | cons item items ih =>
    rw [List.cons_append]
    by_cases hbreaks : Breaks size width row item
    · simp only [rowsFrom, if_pos hbreaks, ih, List.dropLast_cons_of_ne_nil rowsFrom_ne_nil,
        List.cons_append]
      congr 2
      cases hrows : rowsFrom size width [item] items with
      | nil => exact absurd hrows rowsFrom_ne_nil
      | cons first rest => rfl
    · simp only [rowsFrom, if_neg hbreaks, ih]

variable (size width) in
/-- The first row goes on from where the layout has come to. -/
theorem rowsFrom_eq_cons (row items : List α) :
    ∃ right below, rowsFrom size width row items = (row ++ right) :: below := by
  induction items generalizing row with
  | nil => exact ⟨[], [], by simp [rowsFrom]⟩
  | cons item items ih =>
    unfold rowsFrom
    split
    · exact ⟨[], _, by rw [List.append_nil]⟩
    · obtain ⟨right, below, h⟩ := ih (row ++ [item])
      exact ⟨item :: right, below, by rw [h]; simp⟩

end Wrap
